import SurfaceGate.Engine.Contract

/-!
An engine that follows a script.

The script lists how successive calls of each kind come out. A list that has run out means success,
but frames beyond their list come out as the script says. Surfaces are numbers.
-/

namespace SurfaceGate

structure Script where
  /-- What the engine says of itself, if not the default. -/
  greeting : Option String
  preparations : List Outcome
  attachments : List Outcome
  detachments : List Outcome
  frames : List Outcome
  /-- Every frame beyond `frames`. -/
  laterFrames : Outcome
  /-- A resource that each preparation asks for. -/
  probe : Option String
  deriving DecidableEq, Repr

structure Probe where
  found : Bool
  contents : Except Failure ByteArray

namespace Script

/-- The first outcome of a list, or the one that stands for all later ones. -/
def outcome (later : Outcome) : List Outcome → Outcome
  | [] => later
  | first :: _ => first

def follow {σ ε : Type} : Outcome → Work σ ε Unit
  | .ok => pure ()
  | .failed why => throw (.failed why)
  | .panicked panic => throw (.panicked panic)

def prepare (assets : AssetReader) (_size : Extent) : Work Script Probe Unit := do
  let script ← Work.state
  if let some path := script.probe then
    Work.act ⟨assets.contains path, assets.read path⟩
  Work.update ({ · with preparations := script.preparations.tail })
  follow (outcome .ok script.preparations)

def attach (surface : Option Nat) : Work Script Probe Unit := do
  let script ← Work.state
  match surface with
  | some _ =>
      Work.update ({ · with attachments := script.attachments.tail })
      follow (outcome .ok script.attachments)
  | none =>
      Work.update ({ · with detachments := script.detachments.tail })
      follow (outcome .ok script.detachments)

def render : Work Script Probe Unit := do
  let script ← Work.state
  Work.update ({ · with frames := script.frames.tail })
  follow (outcome script.laterFrames script.frames)

def engine : Engine where
  State := Script
  Surface := Nat
  Effect := Probe
  greeting script := script.greeting.getD defaultGreeting
  prepare := prepare
  attach := attach
  render := render
  input _ script := (script, [])
  finish script := (script, [])

end Script
end SurfaceGate
