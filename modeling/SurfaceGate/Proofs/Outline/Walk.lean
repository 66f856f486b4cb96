import SurfaceGate.Proofs.Outline.Calls

/-!
The operations of the machine, by the kinds of their changes.

An operation changes an outline in a row of small changes. These are of a few kinds, and here it is told once
which of them an operation makes. A relation that is reflexive and transitive holds along an operation if it
holds along each change of these kinds, whatever the engine answers and wherever a panic ends the operation.
-/

namespace SurfaceGate

/-- The calls that take a ready surface away for good. -/
def HostCall.dismantles {S H : Type} : HostCall S H → Bool
  | .vanished | .ended | .discarded | .reported .vanished | .reported .ended => true
  | _ => false

namespace Draft

open Outline

variable {S H : Type}

/-- The engine is asked for something, and the gate notes what comes of it. -/
structure Asks (R : Outline S → Outline S → Prop) : Prop where
  asked : ∀ (o : Outline S) {call : Call S} (outcome : Outcome), call.isLifecycle = true →
    R o (o.mark (.call call outcome))
  noted : ∀ (o : Outline S) (phase : Phase) (bound : Bool), R o { o with phase, bound }

/-- A cycle goes from stage to stage, and is left. -/
structure Leaves (R : Outline S → Outline S → Prop) : Prop extends Asks R where
  entered : ∀ (o : Outline S) (next : Stage), R o (o.entered next)
  closed : ∀ o : Outline S, R o o.closed
  retired : ∀ o : Outline S, R o o.retired
  held : ∀ (o : Outline S) (surface : Option S) (size : Option Extent), R o { o with surface, size }

/-- A cycle comes up. -/
structure Begins (R : Outline S → Outline S → Prop) : Prop extends Leaves R where
  opened : ∀ o : Outline S, R o o.opened
  counted : ∀ o : Outline S, R o { o with cycles := o.cycles + 1 }
  started : ∀ (o : Outline S) (cycle : Nat), R o (o.mark (.started cycle))
  manned : ∀ (o : Outline S) (worker : Option Nat), R o { o with worker }

/-- The activity ends. -/
structure Finishes (R : Outline S → Outline S → Prop) : Prop extends Asks R where
  ended : ∀ o : Outline S, R o { o with ended := true }

/-- A ready surface is taken away. The pointers are forgotten behind a closed gate only. -/
structure Closes (R : Outline S → Outline S → Prop) : Prop extends Leaves R, Finishes R where
  forgot : ∀ o : Outline S, o.ready = false → R o { o with pointers := .empty }

/-- Input comes. -/
structure Hears (R : Outline S → Outline S → Prop) : Prop where
  passed : ∀ (o : Outline S) (event : Input.Event), R o (o.mark (.call (.input event) .ok))
  dropped : ∀ o : Outline S, R o { o with dropped := o.dropped + 1 }
  pointed : ∀ (o : Outline S) (pointers : Input.Pointers), R o { o with pointers }

/-- The relation holds along every change. -/
structure Serves (R : Outline S → Outline S → Prop) : Prop extends Begins R, Closes R, Hears R

variable {R : Outline S → Outline S → Prop}

theorem Asks.ask (asks : Asks R) (plan : Plan) {call : Call S} (lifecycle : call.isLifecycle = true) :
    Along R (Draft.ask plan call) := by
  intro o
  rw [Draft.ask_eq]
  cases plan.answer o.history call with
  | ok | failed _ | panicked _ => exact asks.asked o _ lifecycle

/-- Besides, a gate that is closed stays closed. -/
structure Shuts (R : Outline S → Outline S → Prop) (o p : Outline S) : Prop where
  along : R o p
  shut : o.ready = false → p.ready = false

theorem Leaves.shuts (leaves : Leaves R) : Leaves (Shuts R) where
  asked o _ outcome lifecycle := ⟨leaves.asked o outcome lifecycle, id⟩
  noted o phase bound := ⟨leaves.noted o phase bound, id⟩
  entered o next := ⟨leaves.entered o next, id⟩
  closed o := ⟨leaves.closed o, fun _ => rfl⟩
  retired o := ⟨leaves.retired o, fun shut => by rwa [retired_eq]⟩
  held o surface size := ⟨leaves.held o surface size, id⟩

variable [Spans R]

instance : Spans (Shuts R) where
  refl o := ⟨Spans.refl o, id⟩
  trans first second := ⟨Spans.trans first.along second.along, second.shut ∘ first.shut⟩

namespace Asks

variable (asks : Asks R)
include asks

theorem prepare (plan : Plan) (size : Extent) : Along R (Draft.prepare plan size : Draft S _) := by
  refine .read fun o => .branch (.pure _) (.branch (.pure _) (.bind (asks.ask plan rfl) fun answer => ?_))
  cases answer with
  | error why => exact .pure _
  | ok _ => exact .bind (.change fun o => asks.noted o .prepared o.bound) fun _ => .pure _

theorem give (plan : Plan) (surface : S) : Along R (Draft.give plan surface) := by
  refine .read fun o => .branch (.pure _) (.branch (.bind (asks.ask plan rfl) fun answer => ?_) (.pure _))
  cases answer with
  | error why => exact .pure _
  | ok _ => exact .bind (.change fun o => asks.noted o o.phase true) fun _ => .pure _

theorem takeBack (plan : Plan) : Along R (Draft.takeBack plan : Draft S _) := by
  refine .read fun o => .branch (.pure _) (.bind (.change fun o => asks.noted o o.phase false) fun _ => ?_)
  refine .branch (.bind (asks.ask plan rfl) fun answer => ?_) (.pure _)
  cases answer with
  | error why => exact .pure _
  | ok _ => exact .pure _

theorem finish : Along R (Draft.finish : Draft S _) := by
  have lifecycle : (Call.finish : Call S).isLifecycle = true := rfl
  refine .read fun o => .branch (.pure _) (.branch ?_ (.pure _))
  refine .bind (.change fun o => asks.asked o .ok lifecycle) fun _ => ?_
  exact .bind (.change fun o => asks.noted o .finished false) fun _ => .pure _

end Asks

namespace Leaves

variable (leaves : Leaves R)
include leaves

theorem moveTo (next : Stage) : Along R (Draft.moveTo next : Draft S Unit) :=
  .read fun _ => .branch (.change fun o => leaves.entered o next) (.throw _)

theorem giveUpSurface (plan : Plan) : Along R (Draft.giveUpSurface plan : Draft S _) :=
  .bind (leaves.takeBack plan) fun _ => .change fun o => leaves.held o none none

theorem abandonCycle (plan : Plan) : Along R (Draft.abandonCycle plan : Draft S _) :=
  .bind (.change leaves.retired) fun _ => .bind (leaves.giveUpSurface plan) fun _ =>
    .change fun o => leaves.entered o .idle

end Leaves

namespace Begins

variable (begins : Begins R)
include begins

theorem allow : Along R (Draft.allow : Draft S _) :=
  .read fun _ => .branch (.bind (.change begins.opened) fun _ => .pure _) (.pure _)

theorem startWorker (startPanic? : Nat → Option Panic) (cycle : Nat) (startable : Bool) :
    Along R (Draft.startWorker startPanic? cycle startable : Draft S _) := by
  simp only [Draft.startWorker]
  cases startPanic? cycle with
  | some panic => exact .throw _
  | none =>
      refine .branch (.bind (.change fun o => begins.started o cycle) fun _ => ?_) (.pure _)
      refine .bind (.change begins.retired) fun _ => ?_
      exact .bind (.change fun o => begins.manned o (some cycle)) fun _ => .pure _

theorem startRendering (plan : Plan) (startable : Bool) :
    Along R (Draft.startRendering plan startable : Draft S _) := by
  refine .bind begins.allow fun allowed => ?_
  cases allowed with
  | error error => exact .bind (begins.abandonCycle plan) fun _ => .pure _
  | ok _ =>
      refine .bind (.change begins.counted) fun _ => .read fun o => ?_
      refine .bind (begins.startWorker _ _ startable) fun started => ?_
      cases started with
      | error error =>
          exact .bind (.change begins.closed) fun _ => .bind (begins.abandonCycle plan) fun _ => .pure _
      | ok _ => exact .bind (begins.moveTo .ready) fun _ => .pure _

theorem beginCycle (plan : Plan) (startable : Bool) (size : Extent) (surface : S) :
    Along R (Draft.beginCycle plan startable size surface) := by
  refine .bind (begins.moveTo .preparing) fun _ => .bind (begins.prepare plan size) fun prepared => ?_
  cases prepared with
  | error error => exact .bind (begins.abandonCycle plan) fun _ => .pure _
  | ok _ =>
      refine .bind (begins.moveTo .binding) fun _ => .bind (begins.give plan surface) fun given => ?_
      cases given with
      | error error => exact .bind (begins.abandonCycle plan) fun _ => .pure _
      | ok _ =>
          exact .bind (.change fun o => begins.held o (some surface) (some size)) fun _ =>
            begins.startRendering plan startable

theorem adopt (plan : Plan) (startable : Bool) (size : Extent) (surface : S) :
    Along R (Draft.adopt plan startable size surface) := by
  refine .read fun o => .branch (.pure _) ?_
  cases o.stage with
  | idle => exact begins.beginCycle plan startable size surface
  | ready =>
      refine .bind (.change begins.closed) fun _ => .bind (.change begins.retired) fun _ => ?_
      exact begins.beginCycle plan startable size surface
  | preparing | binding | dismantling => exact .pure _

end Begins

theorem Finishes.finishEngine (finishes : Finishes R) : Along R (Draft.finishEngine : Draft S _) := by
  refine .read fun o => .branch (.pure _) (.bind finishes.finish fun answer => ?_)
  cases answer with
  | error error => exact .pure _
  | ok called => exact .bind (.change finishes.ended) fun _ => .pure _

namespace Closes

variable (closes : Closes R)
include closes

theorem dismantle (plan : Plan) : Along R (Draft.dismantle plan : Draft S Unit) := by
  refine .bind (closes.moveTo _) fun _ o => Spans.trans (closes.closed o) ?_
  -- Nothing opens the gate until the pointers go.
  have leaves : Leaves (Shuts R) := closes.shuts
  have emptied : Shuts R o.closed (stateOf ((do
      modify Outline.retired
      Draft.giveUpSurface plan
      modify ({ · with pointers := .empty })
      Draft.moveTo .idle : Draft S Unit) o.closed)) := by
    refine stateOf_bind_of (R := Shuts R) Spans.trans (leaves.retired _) fun _ p joined => ?_
    refine stateOf_bind_of (R := Shuts R) Spans.trans (leaves.giveUpSurface plan p) fun _ q given => ?_
    have forgot : Shuts R q { q with pointers := .empty } :=
      ⟨closes.forgot q (given.shut (joined.shut rfl)), id⟩
    exact Spans.trans forgot (leaves.moveTo .idle _)
  exact emptied.along

theorem release (plan : Plan) : Along R (Draft.release plan : Draft S Unit) :=
  .read fun _ => .branch (closes.dismantle plan) (.pure _)

theorem closeActivity (plan : Plan) : Along R (Draft.closeActivity plan : Draft S _) :=
  .read fun _ => .branch (.pure _) (.perhaps (closes.dismantle plan) closes.toFinishes.finishEngine)

theorem discard (plan : Plan) : Along R (Draft.discard plan : Draft S Unit) :=
  .read fun _ => .perhaps (closes.dismantle plan) (.change closes.retired)

end Closes

namespace Hears

variable (hears : Hears R)
include hears

theorem feed (event : Input.Event) : Along R (Draft.feed event : Draft S Bool) :=
  .read fun _ => .branch (.bind (.change fun o => hears.passed o event) fun _ => .pure _) (.pure _)

theorem deliver (events : List Input.Event) : Along R (Draft.deliver events : Draft S Nat) := by
  induction events with
  | nil => exact .pure 0
  | cons event rest ih =>
      refine .bind (hears.feed event) fun delivered => ?_
      exact .perhaps (.change hears.dropped) (.bind ih fun _ => .pure _)

theorem motion (batch : Input.Motion) : Along R (Draft.motion batch : Draft S Nat) :=
  .read fun _ => .bind (.change fun o => hears.pointed o _) fun _ => hears.deliver _

theorem key (pressed : Input.Key) : Along R (Draft.key pressed : Draft S Bool) := by
  simp only [Draft.key]
  cases pressed.event? with
  | none => exact .pure false
  | some event => exact .bind (hears.deliver [event]) fun _ => .pure _

end Hears

/-- What holds where a call begins and where the operations that it may stand for end holds where it ends. -/
theorem stateOf_call {P : Outline S → Prop} {plan : Plan} {startable : Bool} {o : Outline S}
    {call : HostCall S H} (still : P o)
    (adopts : call.brings = true → ∀ size surface, P (stateOf (Draft.adopt plan startable size surface o)))
    (releases : call.dismantles = true → P (stateOf (Draft.release plan o)))
    (closes : call.dismantles = true → P (stateOf (Draft.closeActivity plan o)))
    (discards : call.dismantles = true → P (stateOf (Draft.discard plan o)))
    (moves : ∀ batch, P (stateOf (Draft.motion batch o)))
    (presses : ∀ pressed, P (stateOf (Draft.key pressed o))) :
    P (stateOf (call.draft plan startable o)) := by
  have returned {α β : Type} {x : Draft S α} {answer : α → β} (ends : P (stateOf (x o))) :
      P (stateOf ((do return answer (← x) : Draft S β) o)) := by
    rwa [stateOf_return]
  have asked {x : Draft S Unit} {answer : Unit → Answer} (idle : ∀ o, stateOf (x o) = o) :
      P (stateOf ((do return answer (← x) : Draft S Answer) o)) :=
    returned ((idle o).symm ▸ still)
  cases call with
  | opened host => exact asked (stateOf_host host)
  | focused host hasFocus =>
      cases hasFocus with
      | false => exact still
      | true => exact asked (stateOf_conduct host.fillScreen)
  | appeared => exact still
  | sized size surface _ => exact returned (adopts rfl size surface)
  | vanished => exact returned (releases rfl)
  | ended => exact returned (closes rfl)
  | motion batch => exact returned (moves batch)
  | key pressed => exact returned (presses pressed)
  | reported report =>
      refine returned ?_
      cases report with
      | appeared => exact still
      | sized size surface _ => exact adopts rfl size surface
      | vanished => exact returned (releases rfl)
      | ended => exact closes rfl
      | motion batch => exact returned (moves batch)
      | key pressed => exact returned (presses pressed)
  | discarded => exact returned (discards rfl)

/-- Whatever the host calls for. -/
theorem Serves.call (serves : Serves R) (plan : Plan) (startable : Bool) (call : HostCall S H) :
    Along R (call.draft plan startable) := fun o =>
  stateOf_call (Spans.refl o) (fun _ size surface => serves.adopt plan startable size surface o)
    (fun _ => serves.toCloses.release plan o) (fun _ => serves.toCloses.closeActivity plan o)
    (fun _ => serves.toCloses.discard plan o) (fun batch => serves.toHears.motion batch o)
    (fun pressed => serves.toHears.key pressed o)

end Draft
end SurfaceGate
