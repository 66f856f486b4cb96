import SurfaceGate.Engine.Scripted
import SurfaceGate.Proofs.Outline.Intake
import SurfaceGate.Proofs.Outline.Records

/-!
No event is lost, doubled, reordered or cut.

Beside a run goes a reference: it follows every batch, ready or not, and forgets the pointers when a
ready surface is taken away. The events that it has of the calls that came while the surface was ready
are those that the engine got, in the same order; the events of all other calls were dropped. What the
worker does meanwhile has no part in it.
-/

namespace SurfaceGate

variable {E : Engine} {H : Type}

def CallRecord.input? : CallRecord E → Option Input.Event
  | ⟨_, .input event, _, _⟩ => some event
  | _ => none

/-- The events that reached the engine, oldest first. -/
def Journal.inputs (journal : Journal E H) : List Input.Event :=
  (journal.calls.filterMap CallRecord.input?).reverse

theorem Journal.inputs_cons (entry : Entry E H) (journal : Journal E H) :
    Journal.inputs (entry :: journal) =
      journal.inputs ++ (entry.call?.bind CallRecord.input?).toList := by
  cases entry with
  | call record =>
      obtain ⟨thread, call, deeds, outcome⟩ := record
      cases call with
      | input event => exact List.reverse_cons
      | prepare _ | attach _ | render | finish => exact (List.append_nil _).symm
  | line _ _ | readiness _ | moved _ _ | started _ | joined _ _ | host _ =>
      exact (List.append_nil _).symm

theorem Journal.inputs_history (journal : Journal E H) : journal.history.inputs = journal.inputs := by
  have same : journal.history.filterMap Mark.input? = journal.calls.filterMap CallRecord.input? := by
    induction journal with
    | nil => rfl
    | cons entry rest ih =>
        cases entry with
        | call record =>
            obtain ⟨thread, call, deeds, outcome⟩ := record
            cases call with
            | input event => exact congrArg (event :: ·) ih
            | prepare _ | attach _ | render | finish => exact ih
        | line _ _ | readiness _ | moved _ _ | started _ | joined _ _ | host _ => exact ih
  exact congrArg List.reverse same

/-- The reference beside a run of `c`. -/
def Intake.along (i : Intake) (c : Controller E H) : List (Turn E.Surface H) → Intake
  | [] => i
  | .called k call :: later =>
      (i.heard (c.stage = .ready) call).along (stateOf (call.perform k c)) later
  | .worked steps :: later => i.along (c.rested steps) later

namespace Controller

variable {c d : Controller E H}

def inputs (c : Controller E H) : List Input.Event :=
  c.session.journal.inputs

def intake (c : Controller E H) : Intake :=
  ⟨c.pointers, c.inputs, c.dropped⟩

theorem intake_outline (c : Controller E H) : c.outline.intake = c.intake := by
  have inputs : c.outline.history.inputs = c.inputs := c.session.journal.inputs_history
  rw [Outline.intake, inputs]
  rfl

theorem Sound.heard (sound : c.Sound) (settled : ¬c.outline.Stranded) {k : Conditions}
    {call : HostCall E.Surface H} {answer : Answer} (returned : call.perform k c = .ok answer d) :
    d.outline.aside = c.outline.aside.heard (decide (c.stage = .ready)) call := by
  obtain ⟨plan, same, -⟩ := sound.mirrored_call k call
  rw [returned] at same
  exact Outline.aside_call sound.outline settled same

theorem Sound.intake_heard (sound : c.Sound) (settled : ¬c.outline.Stranded) {k : Conditions}
    {call : HostCall E.Surface H} {answer : Answer} (returned : call.perform k c = .ok answer d) :
    d.intake = c.intake.heard (decide (c.stage = .ready)) call := by
  rw [← intake_outline, ← intake_outline]
  exact congrArg Outline.Aside.intake (sound.heard settled returned)

/-- A batch goes through an open gate as a whole, and is dropped as a whole at a closed one. -/
theorem Sound.motion_returns (sound : c.Sound) (k : Conditions) (batch : Input.Motion) :
    ∃ d, motion k batch c =
      .ok (if c.isOpen then (c.pointers.absorb batch).events.length else 0) d := by
  obtain ⟨plan, same, -⟩ :=
    sound.mirrored (y := fun _ => Draft.motion batch) fun _ => Mirrors.motion k batch
  rw [Outline.motion_eq] at same
  exact (exists_of_withState_ok same.symm).imp fun _ returned => returned.1

theorem Sound.key_returns (sound : c.Sound) (k : Conditions) (pressed : Input.Key) :
    ∃ d, key k pressed c = .ok (c.isOpen && pressed.event?.isSome) d := by
  obtain ⟨plan, same, -⟩ :=
    sound.mirrored (y := fun _ => Draft.key pressed) fun _ => Mirrors.key k pressed
  rw [Outline.key_eq] at same
  exact (exists_of_withState_ok same.symm).imp fun _ returned => returned.1

end Controller
end SurfaceGate
