import SurfaceGate.Engine.Scripted
import SurfaceGate.Proofs.Outline.Run

/-!
The worker does not interfere.

Two controllers hear the same calls, and their engines come out alike at every preparation and at every
surface that is given or taken back. Their frames may come out in any way, their workers may rest for
any time and come any distance, and their log lines may differ. Then every call returns the same or
panics alike, and after it the two show the same.
-/

namespace SurfaceGate

/-- An engine for the surfaces `S`. -/
structure EngineOn (S : Type) where
  State : Type
  Effect : Type
  greeting : State → String
  prepare : AssetReader → Extent → Work State Effect Unit
  attach : Option S → Work State Effect Unit
  render : Work State Effect Unit
  input : Input.Event → State → State × List (Deed Effect)
  finish : State → State × List (Deed Effect)

abbrev EngineOn.engine {S : Type} (E : EngineOn S) : Engine where
  State := E.State
  Surface := S
  Effect := E.Effect
  greeting := E.greeting
  prepare := E.prepare
  attach := E.attach
  render := E.render
  input := E.input
  finish := E.finish

/-- Every engine is one for its surfaces. -/
def Engine.onSurface (E : Engine) : EngineOn E.Surface where
  State := E.State
  Effect := E.Effect
  greeting := E.greeting
  prepare := E.prepare
  attach := E.attach
  render := E.render
  input := E.input
  finish := E.finish

/-- What a controller shows of itself, but for what it says of the worker, with the calls of its engine
that are no frames. -/
structure View (S : Type) where
  stage : Stage
  ready : Bool
  phase : Phase
  surface : Option S
  size : Option Extent
  holdsWorker : Bool
  cycles : Nat
  dropped : Nat
  ended : Bool
  pointers : Input.Pointers
  /-- Newest first. -/
  calls : List (Call S)

variable {E : Engine} {H S : Type}

def Call.isFrame : Call S → Bool
  | .render => true
  | _ => false

def Controller.view (c : Controller E H) : View E.Surface where
  stage := c.stage
  ready := c.isOpen
  phase := c.session.gate.phase
  surface := c.surface
  size := c.size
  holdsWorker := c.holdsWorker
  cycles := c.cycles
  dropped := c.dropped
  ended := c.ended
  pointers := c.pointers
  calls := (c.session.journal.calls.map CallRecord.call).filter fun call => !call.isFrame

def Mark.call? : Mark S → Option (Call S)
  | .call made _ => some made
  | _ => none

def Outline.view (o : Outline S) : View S where
  stage := o.stage
  ready := o.ready
  phase := o.phase
  surface := o.surface
  size := o.size
  holdsWorker := o.worker.isSome
  cycles := o.cycles
  dropped := o.dropped
  ended := o.ended
  pointers := o.pointers
  calls := o.history.filterMap Mark.call?

theorem Journal.calls_history (journal : Journal E H) :
    (journal.calls.map CallRecord.call).filter (fun call => !call.isFrame) =
      journal.history.filterMap Mark.call? := by
  induction journal with
  | nil => rfl
  | cons entry rest ih =>
      cases entry with
      | call record =>
          obtain ⟨thread, call, deeds, outcome⟩ := record
          cases call with
          | prepare _ | attach _ | input _ | finish => exact congrArg (_ :: ·) ih
          | render => exact ih
      | line _ _ | readiness _ | moved _ _ | started _ | joined _ _ | host _ => exact ih

theorem Controller.view_outline (c : Controller E H) : c.view = c.outline.view := by
  simp only [view, Outline.view, outline, Journal.calls_history, holdsWorker, isOpen,
    Option.isSome_map]

theorem Controller.view_transcript (c : Controller E H) (turns : List (Turn E.Surface H)) :
    (c.transcript turns).map (withState view) =
      ((c.transcript turns).map (withState outline)).map (withState Outline.view) := by
  rw [List.map_map]
  refine List.map_congr_left fun r _ => ?_
  rw [Function.comp_apply, withState_withState]
  exact congrArg (withState · r) (funext view_outline)

theorem Journal.outcomes_history (d : Demand) (journal : Journal E H) :
    (History.outcomes d journal.history).reverse = journal.outcomes d := by
  have same : History.outcomes d journal.history = journal.calls.filterMap fun record =>
      if record.call.demand? = some d then some record.outcome else none := by
    induction journal with
    | nil => rfl
    | cons entry rest ih =>
        cases entry with
        | call record =>
            obtain ⟨thread, call, deeds, outcome⟩ := record
            cases call with
            | prepare _ | attach _ =>
                simp only [Journal.history, Journal.calls, List.filterMap_cons, Entry.mark?,
                  Entry.call?, History.outcomes] at ih ⊢
                split
                · exact congrArg (outcome :: ·) ih
                · exact ih
            | render | input _ | finish => exact ih
        | line _ _ | readiness _ | moved _ _ | started _ | joined _ _ | host _ => exact ih
  rw [same, Journal.outcomes, List.filterMap_reverse]

/-- Successive calls of each kind come out alike, as far as both engines hear them. -/
def Alike {E₁ E₂ : Engine} (j₁ : Journal E₁ H) (j₂ : Journal E₂ H) : Prop :=
  ∀ (d : Demand) (n : Nat) (came₁ came₂ : Outcome),
    (j₁.outcomes d)[n]? = some came₁ → (j₂.outcomes d)[n]? = some came₂ → came₁ = came₂

theorem alike_of_eq {E₁ E₂ : Engine} {j₁ : Journal E₁ H} {j₂ : Journal E₂ H}
    (same : ∀ d, j₁.outcomes d = j₂.outcomes d) : Alike j₁ j₂ := by
  intro d n came₁ came₂ h₁ h₂
  rw [same, h₂] at h₁
  exact (Option.some.inj h₁).symm

/-- Where both engines hear a call they answer alike; where one does, its answer is the plan. -/
theorem Alike.exists_plan {E₁ E₂ : EngineOn S} {j₁ : Journal E₁.engine H} {j₂ : Journal E₂.engine H}
    (alike : Alike j₁ j₂) :
    ∃ plan : Plan, plan.Explains (j₁.history : History S) ∧ plan.Explains (j₂.history : History S) := by
  let plan : Plan := fun d n => (((j₁.outcomes d)[n]?).or (j₂.outcomes d)[n]?).getD .ok
  refine ⟨plan, Plan.explains_of_outcomes _ fun d n came h => ?_,
    Plan.explains_of_outcomes _ fun d n came h => ?_⟩
  · rw [Journal.outcomes_history] at h
    simp [plan, h]
  · rw [Journal.outcomes_history] at h
    cases first : (j₁.outcomes d)[n]? with
    | none => simp [plan, first, h]
    | some other => simp [plan, first, alike d n other came first h]

/-- Two runs with the same calls. The workers and the frames of the two may differ in any way. -/
theorem worker_noninterference (E₁ E₂ : EngineOn S) (e₁ : E₁.State) (e₂ : E₂.State)
    (settings₁ settings₂ : RenderSettings) (turns₁ turns₂ : List (Turn S H))
    (calls : schedule turns₁ = schedule turns₂)
    (starts : ∀ cycle, settings₁.startPanic? cycle = settings₂.startPanic? cycle)
    (alike : Alike
      ((Controller.new e₁ settings₁ : Controller E₁.engine H).run turns₁).session.journal
      ((Controller.new e₂ settings₂ : Controller E₂.engine H).run turns₂).session.journal) :
    ((Controller.new e₁ settings₁ : Controller E₁.engine H).transcript turns₁).map
        (withState Controller.view) =
      ((Controller.new e₂ settings₂ : Controller E₂.engine H).transcript turns₂).map
        (withState Controller.view) ∧
    ((Controller.new e₁ settings₁ : Controller E₁.engine H).run turns₁).view =
      ((Controller.new e₂ settings₂ : Controller E₂.engine H).run turns₂).view := by
  obtain ⟨plan, explained₁, explained₂⟩ := alike.exists_plan
  have first : Mirrored plan (Controller.new e₁ settings₁ : Controller E₁.engine H) turns₁ :=
    mirrored_run (Session.gated_new (E := E₁.engine) (H := H) e₁) explained₁
  have second : Mirrored plan (Controller.new e₂ settings₂ : Controller E₂.engine H) turns₂ :=
    mirrored_run (Session.gated_new (E := E₂.engine) (H := H) e₂) explained₂
  have same : (Controller.new e₁ settings₁ : Controller E₁.engine H).outline =
      (Controller.new e₂ settings₂ : Controller E₂.engine H).outline := by
    rw [Controller.outline_new, Controller.outline_new, funext starts]
  refine ⟨?_, ?_⟩
  · rw [Controller.view_transcript, Controller.view_transcript, first.transcript, second.transcript,
      same, calls]
  · rw [Controller.view_outline, Controller.view_outline, first.outline, second.outline, same, calls]

/-- A worker that draws on and on, and one that panics at its second frame, which is over before the
rebind. -/
theorem worker_noninterference_panicked :
    let calls (k : Conditions) : List (Turn Nat Unit) :=
      [.called k (.sized ⟨800, 600⟩ 1 (.ofRead fun path => .error (.of path))),
        .worked (k.pace .closing),
        .called k (.key ⟨0, 4⟩),
        .called k (.sized ⟨640, 480⟩ 2 (.ofRead fun path => .error (.of path))),
        .called k .discarded]
    let steady : Controller Script.engine.onSurface.engine Unit :=
      .new ⟨none, [], [], [.failed (.of "held")], [], .ok, none⟩ .default
    let broken : Controller Script.engine.onSurface.engine Unit :=
      .new ⟨none, [], [], [.failed (.of "held")], [.ok], .panicked (.text "gone"), none⟩
        { RenderSettings.default with interval := 0, heartbeat := 1 }
    (steady.transcript (calls .calm)).map (withState Controller.view) =
      (broken.transcript (calls ⟨true, fun _ => 9, fun _ => 0⟩)).map (withState Controller.view) ∧
    (steady.run (calls .calm)).view = (broken.run (calls ⟨true, fun _ => 9, fun _ => 0⟩)).view :=
  worker_noninterference Script.engine.onSurface Script.engine.onSurface _ _ _ _ _ _ rfl
    (fun _ => rfl) (alike_of_eq fun d => by cases d <;> decide +kernel)

end SurfaceGate
