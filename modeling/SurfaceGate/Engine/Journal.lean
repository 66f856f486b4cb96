import SurfaceGate.Engine.Contract
import SurfaceGate.Lifecycle.Stage
import SurfaceGate.Worker.Handle

/-!
The journal: what happened at the gate and around it.

The journal has an entry for every call that reached the engine, with the thread it came from, what
the engine did and how the call came out; for every log line; for every time the gate is opened or
closed; for every move from stage to stage; for every start and every join of a worker; and for
what the host did. It is kept newest first.
-/

namespace SurfaceGate

/-- Who acts: the host, or the worker with a name. -/
inductive Thread where
  | host
  | worker (name : String)
  deriving DecidableEq, Repr

inductive Call (S : Type) where
  | prepare (size : Extent)
  | attach (surface : Option S)
  | render
  | input (event : Input.Event)
  | finish
  deriving DecidableEq, Repr

structure CallRecord (E : Engine) where
  thread : Thread
  call : Call E.Surface
  deeds : List (Deed E.Effect)
  outcome : Outcome

/-- One entry of the journal; `H` is what a host can do. -/
inductive Entry (E : Engine) (H : Type) where
  | call (record : CallRecord E)
  | line (thread : Thread) (line : Log.Line)
  | readiness (ready : Bool)
  | moved (before after : Stage)
  | started (cycle : Nat)
  | joined (cycle : Nat) (ending : Ending)
  | host (deed : H)

/-- Newest first. -/
abbrev Journal (E : Engine) (H : Type) := List (Entry E H)

end SurfaceGate
