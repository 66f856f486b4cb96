import SurfaceGate.Proofs.Outline.Machine
import SurfaceGate.Proofs.Steps

/-!
What it means that a step of a controller is mirrored by a step on outlines.

The step on outlines returns what the controller's step returns, or panics as it does, and leaves the
outline of the controller that is left. The plan has to explain the history that the step leaves;
histories only grow, so it explains the histories on the way as well. The frames are on no outline.
What is known of them is carried along: each passed an open gate and came from a worker that was not
joined. All other calls came from the host.
-/

namespace SurfaceGate

variable {E : Engine} {H : Type}

/-- Every frame passed an open gate and came from a worker that was not joined. -/
def Journal.Gated : Journal E H → Prop
  | [] => True
  | entry :: older =>
      (entry.isFrame → History.isOpen (Journal.history older) = true ∧
        History.unjoined (Journal.history older) ≠ []) ∧ Gated older

/-- Frames are the calls of workers, all others are the host's. -/
def Journal.Owned (journal : Journal E H) : Prop :=
  ∀ record ∈ journal.calls, record.thread = .host ↔ record.call ≠ .render

structure Session.Gated (s : Session E H) : Prop where
  frames : s.journal.Gated
  ready_eq : s.gate.ready = s.journal.history.isOpen
  unjoined : ∀ cycle ∈ s.worker.map Worker.cycle, cycle ∈ s.journal.history.unjoined
  owned : s.journal.Owned

structure Mirrors (plan : Plan) {α : Type} (x : Control E H α) (y : Draft E.Surface α) : Prop where
  grows : ∀ c, c.session.journal <:+ (stateOf (x c)).session.journal
  agrees : ∀ c, c.session.Gated → plan.Explains (stateOf (x c)).outline.history →
    y c.outline = withState Controller.outline (x c) ∧ (stateOf (x c)).session.Gated

namespace Mirrors

variable {plan : Plan} {α β : Type}

theorem pure (a : α) : Mirrors plan (pure a : Control E H α) (pure a) where
  grows _ := List.suffix_rfl
  agrees _ gated _ := ⟨rfl, gated⟩

theorem throw (panic : Panic) :
    Mirrors plan (throw panic : Control E H α) (throw panic) where
  grows _ := List.suffix_rfl
  agrees _ gated _ := ⟨rfl, gated⟩

theorem bind {x : Control E H α} {y : Draft E.Surface α} {f : α → Control E H β}
    {g : α → Draft E.Surface β} (first : Mirrors plan x y)
    (next : ∀ a, Mirrors plan (f a) (g a)) : Mirrors plan (x >>= f) (y >>= g) where
  grows c := by
    have grown := first.grows c
    cases hx : x c with
    | ok a d =>
        rw [hx] at grown
        rw [bind_of_ok hx]
        exact grown.trans ((next a).grows d)
    | error panic d =>
        rw [hx] at grown
        rwa [bind_of_error hx]
  agrees c gated explained := by
    have agreed := first.agrees c gated
    cases hx : x c with
    | ok a d =>
        rw [hx] at agreed
        rw [bind_of_ok hx] at explained ⊢
        -- The plan explains the longer history, hence the one between the two steps.
        have later := Journal.suffix_history ((next a).grows d)
        obtain ⟨same, kept⟩ := agreed (plan.explains_of_suffix later explained)
        rw [bind_of_ok same]
        exact (next a).agrees d kept explained
    | error panic d =>
        rw [hx] at agreed
        rw [bind_of_error hx] at explained ⊢
        obtain ⟨same, kept⟩ := agreed explained
        rw [bind_of_error same]
        exact ⟨rfl, kept⟩

/-- A step that leaves no trace on the outline may come first. -/
theorem silent {x : Control E H PUnit} {f : PUnit → Control E H β} {y : Draft E.Surface β}
    (first : Mirrors plan x (Pure.pure PUnit.unit)) (next : Mirrors plan (f PUnit.unit) y) :
    Mirrors plan (x >>= f) y :=
  bind (g := fun _ => y) first fun _ => next

theorem read {f : Controller E H → Control E H β} {g : Outline E.Surface → Draft E.Surface β}
    (next : ∀ c, Mirrors plan (f c) (g c.outline)) : Mirrors plan (get >>= f) (get >>= g) where
  grows c := (next c).grows c
  agrees c := (next c).agrees c

theorem look {f : Controller E H → Control E H β} {y : Draft E.Surface β}
    (next : ∀ c, Mirrors plan (f c) y) : Mirrors plan (get >>= f) y where
  grows c := (next c).grows c
  agrees c := (next c).agrees c

theorem change {f : Controller E H → Controller E H} {g : Outline E.Surface → Outline E.Surface}
    (session : ∀ c, (f c).session = c.session) (outline : ∀ c, (f c).outline = g c.outline) :
    Mirrors plan (modify f) (modify g) where
  grows c := by
    change _ <:+ (f c).session.journal
    exact (session c).symm ▸ List.suffix_rfl
  agrees c gated _ := by
    constructor
    · exact congrArg (EStateM.Result.ok PUnit.unit) (outline c).symm
    · change (f c).session.Gated
      rw [session]
      exact gated

end Mirrors
end SurfaceGate
