import SurfaceGate.Failure
import SurfaceGate.Input.Event
import SurfaceGate.Log.Level

/-!
What an engine is to the gate.

An engine has a state of its own and answers six calls. Preparing, attaching and rendering may fail
or panic; taking input and finishing do neither. While it works, an engine writes log lines and acts
on systems outside; a call hands back both, in order, beside the new state.
-/

namespace SurfaceGate

/-- Size of a surface in pixels. -/
structure Extent where
  width : UInt32
  height : UInt32
  deriving DecidableEq, Repr

def Extent.isEmpty (size : Extent) : Bool :=
  size.width = 0 || size.height = 0

/-- What the host lends the engine for reading its resources. -/
structure AssetReader where
  read : String → Except Failure ByteArray
  contains : String → Bool

/-- A reader that finds out what there is by reading it. -/
def AssetReader.ofRead (read : String → Except Failure ByteArray) : AssetReader where
  read := read
  contains path := (read path).isOk

/-- How a call into an engine is left before its end. -/
inductive Stop where
  | failed (why : Failure)
  | panicked (panic : Panic)
  deriving DecidableEq, Repr

inductive Deed (ε : Type) where
  | logged (line : Log.Line)
  | acted (effect : ε)
  deriving DecidableEq, Repr

/-- The state of an engine during a call, and its deeds since the call began. -/
structure Performance (σ ε : Type) where
  state : σ
  deeds : List (Deed ε)

/-- Work of an engine with state `σ` and effects `ε`. The state that a failure or a panic leaves is
kept. -/
abbrev Work (σ ε α : Type) := EStateM Stop (Performance σ ε) α

namespace Work

variable {σ ε α : Type}

def state : Work σ ε σ := do
  return (← get).state

def update (f : σ → σ) : Work σ ε Unit :=
  modify fun p => { p with state := f p.state }

def add (deed : Deed ε) : Work σ ε Unit :=
  modify fun p => { p with deeds := p.deeds ++ [deed] }

def act (effect : ε) : Work σ ε Unit :=
  add (.acted effect)

def log (level : Log.Level) (text : String) : Work σ ε Unit :=
  add (.logged ⟨level, text⟩)

def fail (why : Failure) : Work σ ε α :=
  throw (.failed why)

end Work

/-- An engine: its types, and its answers to the calls of the gate. -/
structure Engine where
  State : Type
  Surface : Type
  Effect : Type
  greeting : State → String
  /-- Gets ready for surfaces of a size; may be called again and again. -/
  prepare : AssetReader → Extent → Work State Effect Unit
  /-- Takes a surface, or gives up the one it has. -/
  attach : Option Surface → Work State Effect Unit
  render : Work State Effect Unit
  input : Input.Event → State → State × List (Deed Effect)
  /-- The last call. -/
  finish : State → State × List (Deed Effect)

def defaultGreeting : String := "engine linked"

inductive Outcome where
  | ok
  | failed (why : Failure)
  | panicked (panic : Panic)
  deriving DecidableEq, Repr

def Stop.outcome : Stop → Outcome
  | .failed why => .failed why
  | .panicked panic => .panicked panic

end SurfaceGate
