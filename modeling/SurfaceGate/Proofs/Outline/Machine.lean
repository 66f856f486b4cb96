import SurfaceGate.Lifecycle.Controller
import SurfaceGate.Proofs.Outline.History

/-!
The outline of a controller, and the machine that works on outlines.

An outline is what is left of a controller without its engine's state, its worker's state and its
log. The operations of the machine are those of the controller; the engine's answers come from a
plan, and the worker is a number. Nothing here takes a step of a worker or knows how far one came.
-/

namespace SurfaceGate

/-- What the start of a cycle's worker panics with, when its thread cannot have that name. -/
def RenderSettings.startPanic? (settings : RenderSettings) (cycle : Nat) : Option Panic :=
  let bytes := (settings.threadName cycle).toUTF8.toList
  (firstNull? bytes).map (nullInThreadName bytes)

structure Outline (S : Type) where
  stage : Stage
  phase : Phase
  bound : Bool
  ready : Bool
  /-- The cycle of the worker that is held. -/
  worker : Option Nat
  surface : Option S
  size : Option Extent
  pointers : Input.Pointers
  ended : Bool
  cycles : Nat
  dropped : Nat
  startPanic? : Nat → Option Panic
  history : History S

def Outline.new {S : Type} (startPanic? : Nat → Option Panic) : Outline S where
  stage := .idle
  phase := .fresh
  bound := false
  ready := false
  worker := none
  surface := none
  size := none
  pointers := .empty
  ended := false
  cycles := 0
  dropped := 0
  startPanic?
  history := []

def Controller.outline {E : Engine} {H : Type} (c : Controller E H) : Outline E.Surface where
  stage := c.stage
  phase := c.session.gate.phase
  bound := c.session.gate.bound
  ready := c.session.gate.ready
  worker := c.session.worker.map Worker.cycle
  surface := c.surface
  size := c.size
  pointers := c.pointers
  ended := c.ended
  cycles := c.cycles
  dropped := c.dropped
  startPanic? := c.settings.startPanic?
  history := c.session.journal.history

theorem Controller.outline_new {E : Engine} {H : Type} (engine : E.State)
    (settings : RenderSettings) :
    (new engine settings : Controller E H).outline = .new settings.startPanic? :=
  rfl

/-- Steps on an outline; a panic keeps the outline it leaves. -/
abbrev Draft (S α : Type) := EStateM Panic (Outline S) α

namespace Outline

variable {S : Type}

def mark (m : Mark S) (o : Outline S) : Outline S :=
  { o with history := m :: o.history }

def entered (next : Stage) (o : Outline S) : Outline S :=
  { o with stage := next }.mark (.moved o.stage next)

def opened (o : Outline S) : Outline S :=
  { o with ready := true }.mark (.readiness true)

def closed (o : Outline S) : Outline S :=
  { o with ready := false }.mark (.readiness false)

def retired (o : Outline S) : Outline S :=
  match o.worker with
  | none => o
  | some cycle => { o with worker := none }.mark (.joined cycle)

def letGo (o : Outline S) : Outline S :=
  { o with surface := none, size := none }

theorem retired_of_free {o : Outline S} (free : o.worker = none) : o.retired = o := by
  simp only [retired]
  rw [free]

/-- Only the worker and the history tell that a worker was joined. -/
theorem retired_eq (o : Outline S) :
    o.retired = { o with worker := none, history := o.retired.history } := by
  simp only [retired]
  split
  · next free => rw [← free]
  · rfl

end Outline

namespace Draft

variable {S : Type}

open Outline

def moveTo (next : Stage) : Draft S Unit := do
  let o ← get
  if o.stage.allows next then modify (entered next)
  else throw (.text s!"illegal transition {o.stage.shown} -> {next.shown}")

def breach {α : Type} (violation : Violation) : Draft S (Except GateError α) :=
  return .error (.ordering violation)

/-- A call of the host, which comes out as planned. -/
def ask (plan : Plan) (call : Call S) : Draft S (Except Failure Unit) := do
  let outcome := plan.answer (← get).history call
  modify (mark (.call call outcome))
  match outcome with
  | .ok => return .ok ()
  | .failed why => return .error why
  | .panicked panic => throw panic

theorem ask_eq (plan : Plan) (call : Call S) (o : Outline S) :
    ask plan call o =
      match plan.answer o.history call with
      | .ok => .ok (.ok ()) (o.mark (.call call .ok))
      | .failed why => .ok (.error why) (o.mark (.call call (.failed why)))
      | .panicked panic => .error panic (o.mark (.call call (.panicked panic))) := by
  change (match plan.answer o.history call with
    | .ok => Pure.pure (.ok ())
    | .failed why => Pure.pure (.error why)
    | .panicked panic => throw panic : Draft S (Except Failure Unit))
      (o.mark (.call call (plan.answer o.history call))) = _
  cases plan.answer o.history call <;> rfl

def prepare (plan : Plan) (size : Extent) : Draft S (Except GateError Unit) := do
  let o ← get
  if o.ready then breach .prepareWhileReady
  else if o.phase = .finished then breach .prepareAfterFinish
  else
    match ← ask plan (.prepare size) with
    | .error why => return .error (.prepare why)
    | .ok () =>
        modify ({ · with phase := .prepared })
        return .ok ()

def give (plan : Plan) (surface : S) : Draft S (Except GateError Unit) := do
  let o ← get
  if o.ready then breach .attachWhileReady
  else if o.phase = .prepared then
    match ← ask plan (.attach (some surface)) with
    | .error why => return .error (.attach why)
    | .ok () =>
        modify ({ · with bound := true })
        return .ok ()
  else breach .attachBeforePrepare

def takeBack (plan : Plan) : Draft S (Except GateError Unit) := do
  let o ← get
  if o.ready then breach .attachWhileReady
  else
    modify ({ · with bound := false })
    if o.phase = .prepared then
      match ← ask plan (.attach none) with
      | .error why => return .error (.attach why)
      | .ok () => return .ok ()
    else return .ok ()

def allow : Draft S (Except GateError Unit) := do
  let o ← get
  if o.phase = .prepared ∧ o.bound then
    modify opened
    return .ok ()
  else breach .readyTooEarly

def feed (event : Input.Event) : Draft S Bool := do
  let o ← get
  if o.ready then
    modify (mark (.call (.input event) .ok))
    return true
  else return false

def finish : Draft S (Except GateError Bool) := do
  let o ← get
  if o.ready then breach .finishWhileReady
  else if o.phase = .prepared then
    modify (mark (.call .finish .ok))
    modify ({ · with phase := .finished, bound := false })
    return .ok true
  else return .ok false

def startWorker (startPanic? : Nat → Option Panic) (cycle : Nat) (startable : Bool) :
    Draft S (Except GateError Unit) := do
  match startPanic? cycle with
  | some panic => throw panic
  | none =>
      if startable then
        modify (mark (.started cycle))
        modify retired
        modify ({ · with worker := some cycle })
        return .ok ()
      else return .error (.workerStart .tryAgain)

def giveUpSurface (plan : Plan) : Draft S Unit := do
  let _ ← takeBack plan
  modify letGo

def abandonCycle (plan : Plan) : Draft S Unit := do
  modify retired
  giveUpSurface plan
  modify (entered .idle)

def dismantle (plan : Plan) : Draft S Unit := do
  moveTo .dismantling
  modify closed
  modify retired
  giveUpSurface plan
  modify ({ · with pointers := Input.Pointers.empty })
  moveTo .idle

def startRendering (plan : Plan) (startable : Bool) : Draft S (Except GateError Unit) := do
  match ← allow with
  | .error error =>
      abandonCycle plan
      return .error error
  | .ok () =>
      modify fun o => { o with cycles := o.cycles + 1 }
      let o ← get
      match ← startWorker o.startPanic? o.cycles startable with
      | .error error =>
          modify closed
          abandonCycle plan
          return .error error
      | .ok () =>
          moveTo .ready
          return .ok ()

def beginCycle (plan : Plan) (startable : Bool) (size : Extent) (surface : S) :
    Draft S (Except GateError Unit) := do
  moveTo .preparing
  match ← prepare plan size with
  | .error error =>
      abandonCycle plan
      return .error error
  | .ok () =>
      moveTo .binding
      match ← give plan surface with
      | .error error =>
          abandonCycle plan
          return .error error
      | .ok () =>
          modify ({ · with surface := some surface, size := some size })
          startRendering plan startable

def finishEngine : Draft S (Except GateError Unit) := do
  if (← get).worker.isSome then breach .finishWithWorker
  else
    match ← finish with
    | .error error => return .error error
    | .ok _ =>
        modify ({ · with ended := true })
        return .ok ()

def deliver : List Input.Event → Draft S Nat
  | [] => return 0
  | event :: rest => do
      let delivered ← feed event
      if !delivered then
        modify fun o => { o with dropped := o.dropped + 1 }
      let others ← deliver rest
      return (if delivered then 1 else 0) + others

def adopt (plan : Plan) (startable : Bool) (size : Extent) (surface : S) :
    Draft S (Except GateError Unit) := do
  let o ← get
  if o.ended then breach .adoptAfterEnd
  else
    match o.stage with
    | .idle => beginCycle plan startable size surface
    | .ready =>
        modify closed
        modify retired
        beginCycle plan startable size surface
    | _ => breach .adoptReentered

def release (plan : Plan) : Draft S Unit := do
  if (← get).stage = .ready then dismantle plan

def closeActivity (plan : Plan) : Draft S (Except GateError Unit) := do
  let o ← get
  if o.ended then return .ok ()
  else
    if o.stage = .ready then dismantle plan
    finishEngine

def motion (batch : Input.Motion) : Draft S Nat := do
  let a := (← get).pointers.absorb batch
  modify ({ · with pointers := a.pointers })
  deliver a.events

def key (pressed : Input.Key) : Draft S Bool := do
  match pressed.event? with
  | none => return false
  | some event => return (← deliver [event]) = 1

def report (plan : Plan) (startable : Bool) : Report S → Draft S (Except GateError Unit)
  | .appeared => return .ok ()
  | .sized size surface _ => adopt plan startable size surface
  | .vanished => do release plan; return .ok ()
  | .ended => closeActivity plan
  | .motion batch => do let _ ← motion batch; return .ok ()
  | .key pressed => do let _ ← key pressed; return .ok ()

def discard (plan : Plan) : Draft S Unit := do
  if (← get).stage = .ready then dismantle plan
  modify retired

end Draft
end SurfaceGate
