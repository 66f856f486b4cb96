import SurfaceGate.Engine.Journal
import SurfaceGate.Error

/-!
The gate: every call into the engine passes it.

The gate is open while it is *ready*. Frames and input reach the engine only through an open gate,
preparing, attaching and finishing only while it is closed. Each operation is one atomic step, so
host and worker can share the gate. What an engine's failure or panic leaves behind stays as it is;
in particular, a surface that the engine fails to take while it has another one leaves the gate
bound.
-/

namespace SurfaceGate

inductive Phase where
  | fresh
  | prepared
  | finished
  deriving DecidableEq, Repr

inductive Attempt where
  | drawn
  /-- The gate was closed and the engine was not called. -/
  | withheld
  deriving DecidableEq, Repr

structure Gate (E : Engine) where
  engine : E.State
  phase : Phase
  bound : Bool
  /-- Whether the gate is open. -/
  ready : Bool

def Gate.new {E : Engine} (engine : E.State) : Gate E where
  engine := engine
  phase := .fresh
  bound := false
  ready := false

/-- What host and worker share. -/
structure Session (E : Engine) (H : Type) where
  gate : Gate E
  /-- The worker that was started last, until it is joined. -/
  worker : Option Worker
  journal : Journal E H

def Session.new {E : Engine} {H : Type} (engine : E.State) : Session E H where
  gate := Gate.new engine
  worker := none
  journal := []

/-- Steps on a session; a panic keeps the session it leaves. -/
abbrev Act (E : Engine) (H α : Type) := EStateM Panic (Session E H) α

namespace Session

variable {E : Engine} {H : Type}

def write (entry : Entry E H) (s : Session E H) : Session E H :=
  { s with journal := entry :: s.journal }

/-- The session once the engine is done with a call. -/
def close (thread : Thread) (call : Call E.Surface) (outcome : Outcome)
    (p : Performance E.State E.Effect) (s : Session E H) : Session E H :=
  { s with gate := { s.gate with engine := p.state } }.write <|
    .call ⟨thread, call, p.deeds, outcome⟩

end Session

namespace Act

variable {E : Engine} {H : Type}

def note (entry : Entry E H) : Act E H Unit :=
  modify (·.write entry)

def log (thread : Thread) (level : Log.Level) (text : String) : Act E H Unit :=
  note (.line thread ⟨level, text⟩)

def gate : Act E H (Gate E) := do
  return (← get).gate

def setGate (f : Gate E → Gate E) : Act E H Unit :=
  modify fun s => { s with gate := f s.gate }

/-- Lets the engine work on a call and enters it into the journal. The engine's failure is a value,
its panic goes on. -/
def perform (thread : Thread) (call : Call E.Surface) (work : Work E.State E.Effect Unit) :
    Act E H (Except Failure Unit) := fun s =>
  match work ⟨s.gate.engine, []⟩ with
  | .ok () p => .ok (.ok ()) (s.close thread call .ok p)
  | .error (.failed why) p => .ok (.error why) (s.close thread call (.failed why) p)
  | .error (.panicked panic) p => .error panic (s.close thread call (.panicked panic) p)

/-- Tells the engine something that it can neither refuse nor fail at. -/
def inform (thread : Thread) (call : Call E.Surface)
    (work : E.State → E.State × List (Deed E.Effect)) : Act E H Unit :=
  modify fun s =>
    let (state, deeds) := work s.gate.engine
    s.close thread call .ok ⟨state, deeds⟩

def setReadiness (ready : Bool) : Act E H Unit := do
  setGate ({ · with ready })
  note (.readiness ready)

end Act

namespace Gate

variable {E : Engine} {H : Type}

open Act

def breach {α : Type} (violation : Violation) : Act E H (Except GateError α) :=
  return .error (.ordering violation)

def greeting : Act E H String := do
  return E.greeting (← gate).engine

/-- Prepares the engine for a size, as often as the host likes until it is finished. -/
def prepare (thread : Thread) (assets : AssetReader) (size : Extent) :
    Act E H (Except GateError Unit) := do
  let g ← gate
  if g.ready then breach .prepareWhileReady
  else if g.phase = .finished then breach .prepareAfterFinish
  else
    match ← perform thread (.prepare size) (E.prepare assets size) with
    | .error why => return .error (.prepare why)
    | .ok () =>
        setGate ({ · with phase := .prepared })
        return .ok ()

def give (thread : Thread) (surface : E.Surface) : Act E H (Except GateError Unit) := do
  let g ← gate
  if g.ready then breach .attachWhileReady
  else if g.phase = .prepared then
    match ← perform thread (.attach (some surface)) (E.attach (some surface)) with
    | .error why => return .error (.attach why)
    | .ok () =>
        setGate ({ · with bound := true })
        return .ok ()
  else breach .attachBeforePrepare

/-- Takes the surface from the engine. One that was never prepared, or is finished, has none. -/
def takeBack (thread : Thread) : Act E H (Except GateError Unit) := do
  let g ← gate
  if g.ready then breach .attachWhileReady
  else
    setGate ({ · with bound := false })
    if g.phase = .prepared then
      match ← perform thread (.attach none) (E.attach none) with
      | .error why => return .error (.attach why)
      | .ok () => return .ok ()
    else return .ok ()

def attach (thread : Thread) : Option E.Surface → Act E H (Except GateError Unit)
  | some surface => give thread surface
  | none => takeBack thread

/-- Opens the gate to frames and input. -/
def allow : Act E H (Except GateError Unit) := do
  let g ← gate
  if g.phase = .prepared ∧ g.bound then
    setReadiness true
    return .ok ()
  else breach .readyTooEarly

/-- Closes the gate. Answers whether it was open. -/
def forbid : Act E H Bool := do
  let g ← gate
  setReadiness false
  return g.ready

def render (thread : Thread) : Act E H (Except GateError Attempt) := do
  let g ← gate
  if g.ready then
    match ← perform thread .render E.render with
    | .error why => return .error (.render why)
    | .ok () => return .ok .drawn
  else return .ok .withheld

/-- Hands an event to the engine through an open gate. Answers whether the engine got it. -/
def feed (thread : Thread) (event : Input.Event) : Act E H Bool := do
  let g ← gate
  if g.ready then
    inform thread (.input event) (E.input event)
    return true
  else return false

/-- Ends a prepared engine. Answers whether the engine was called. -/
def finish (thread : Thread) : Act E H (Except GateError Bool) := do
  let g ← gate
  if g.ready then breach .finishWhileReady
  else if g.phase = .prepared then
    inform thread .finish E.finish
    setGate ({ · with phase := .finished, bound := false })
    return .ok true
  else return .ok false

end Gate
end SurfaceGate
