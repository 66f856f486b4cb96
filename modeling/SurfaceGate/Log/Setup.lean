import SurfaceGate.Log.Filter
import SurfaceGate.Text.Terminal

/-!
Setting the logger up, and what it writes.

The logger is set up once per process; later attempts change nothing. It takes its filter from the
settings, else from the environment, else it wants everything up to information. A process that has
a logger already keeps that one. A line holds the level, the tag of the program, the thread and the
message. Lines go to a file or a pipe and not to a terminal, so control functions are taken out of
each, but complaints about a filter are written as they are.
-/

namespace SurfaceGate.Log

structure Settings where
  filter : Option String
  tag : String
  deriving DecidableEq, Repr

def Settings.default : Settings where
  filter := none
  tag := "EMBER"

structure Record where
  level : Level
  target : String
  message : String
  thread : Option String
  deriving DecidableEq, Repr

structure Logger where
  filter : Filter
  tag : String
  deriving DecidableEq, Repr

/-- Fills up to five characters, the length of the longest level names. -/
def padded (name : String) : String :=
  name ++ String.ofList (List.replicate (5 - name.length) ' ')

/-- The line of a record behind its time. -/
def Logger.line (logger : Logger) (r : Record) : String :=
  let thread := r.thread.getD "?"
  s!"{padded r.level.name} {logger.tag} [{thread}] {r.message}"

/-- What the logger writes for a record. A control string that nothing ends takes the end of its
line with it. -/
def Logger.write (logger : Logger) (r : Record) : String :=
  if logger.filter.admits r.target r.level then Text.readable (logger.line r ++ "\n") else ""

def chooseFilter (settings : Settings) (environment : Option String) : Filter × List String :=
  match settings.filter.or environment with
  | some text =>
      let parts := partsOf text
      (Filter.ofParts parts, parts.filterMap fun part =>
        match part with
        | .invalid spec => some (invalidPart spec)
        | .directive _ => none)
  | none => ([⟨none, .upTo .info⟩], [])

def readyRecord : Record where
  level := .debug
  target := "ember_bridge::logging::init"
  message := "logging initialized"
  thread := some "main"

/-- Sets a logger up where `occupied` says whether there is one already. Answers the new logger, if
it came into force, and what was written on the way. -/
def setUp (settings : Settings) (environment : Option String) (occupied : Bool) :
    Option Logger × String :=
  let (filter, complaints) := chooseFilter settings environment
  let written := String.join (complaints.map (· ++ "\n"))
  if occupied then (none, written)
  else
    let logger : Logger := ⟨filter, settings.tag⟩
    (some logger, written ++ logger.write readyRecord)

def session (settings : Settings) (environment : Option String) (occupied : Bool)
    (records : List Record) : String :=
  match setUp settings environment occupied with
  | (some logger, written) => written ++ String.join (records.map logger.write)
  | (none, written) => written

end SurfaceGate.Log
