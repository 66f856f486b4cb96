/-!
Levels and lines of the log.
-/

namespace SurfaceGate.Log

inductive Level where
  | error
  | warn
  | info
  | debug
  | trace
  deriving DecidableEq, Repr

/-- Rank by detail; an error is the most urgent and ranks first. -/
def Level.rank : Level → Nat
  | .error => 1
  | .warn => 2
  | .info => 3
  | .debug => 4
  | .trace => 5

def Level.name : Level → String
  | .error => "ERROR"
  | .warn => "WARN"
  | .info => "INFO"
  | .debug => "DEBUG"
  | .trace => "TRACE"

/-- Whether a record of level `b` passes where `a` is the most detailed level wanted. -/
def Level.admits (a b : Level) : Bool :=
  b.rank ≤ a.rank

structure Line where
  level : Level
  text : String
  deriving DecidableEq, Repr

def Line.render (line : Line) : String :=
  s!"{line.level.name} {line.text}"

end SurfaceGate.Log
