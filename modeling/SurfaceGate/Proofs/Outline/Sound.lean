import SurfaceGate.Proofs.Outline.Lawful
import SurfaceGate.Proofs.Outline.Machine

/-!
Sound outlines.

An outline is kept when its fields say what its history says; this holds at every moment, amid a call
as well. Between two calls an outline is sound: it is kept, its bind cycles are counted, and it is idle,
live or stranded. A cycle that is up makes it live. A panic amid a cycle strands it, and it stays
stranded.
-/

namespace SurfaceGate.Outline

variable {S : Type}

structure Kept (o : Outline S) : Prop where
  lawful : History.Lawful o.history
  ready_eq : o.ready = History.isOpen o.history
  unjoined_eq : History.unjoined o.history = o.worker.toList
  finished_iff : o.phase = .finished ↔ History.Finished o.history
  prepared_iff : o.phase = .prepared ↔ History.Prepared o.history ∧ ¬History.Finished o.history
  started_le : ∀ cycle, Mark.started cycle ∈ o.history → cycle ≤ o.cycles

/-- Nothing is bound, rendered or held. -/
structure Idle (o : Outline S) : Prop where
  stage : o.stage = .idle
  closed : o.ready = false
  free : o.worker = none
  surface : o.surface = none
  size : o.size = none
  unbound : o.bound = false

/-- A cycle is up. -/
structure Live (o : Outline S) : Prop where
  stage : o.stage = .ready
  ready : o.ready = true
  worker : o.worker = some o.cycles
  bound : o.bound = true
  prepared : o.phase = .prepared
  last : ∃ surface size, o.surface = some surface ∧ o.size = some size ∧
    History.Bound surface size o.history

/-- A panic left a call amid a cycle. The gate is open if it was the start of the worker that
panicked. -/
structure Stranded (o : Outline S) : Prop where
  not_idle : o.stage ≠ .idle
  not_ready : o.stage ≠ .ready
  free : o.worker = none
  holds : o.ready = true → o.phase = .prepared ∧ o.surface.isSome = true

structure Sound (o : Outline S) : Prop extends Kept o where
  count : History.taken o.history = o.cycles
  ends : o.phase = .finished → o.ended = true
  spent : o.ended = true → o.phase ≠ .prepared
  stands : Idle o ∨ Live o ∨ Stranded o

/-- From `o` to `p` no worker was started, and nothing came through an open gate. -/
def Unserved (o p : Outline S) : Prop :=
  ∃ more, p.history = more ++ o.history ∧ ∀ mark ∈ more, mark.serves = false

/-- Amid a call that began at `base`, in some stage: the gate is closed, no worker is left, and the
engine is not finished. -/
structure Amid (base : Outline S) (stage : Stage) (o : Outline S) : Prop extends Kept o where
  unserved : Unserved base o
  stage_eq : o.stage = stage
  closed : o.ready = false
  free : o.worker = none
  lasts : o.ended = false
  alive : o.phase ≠ .finished
  count : History.taken o.history = o.cycles

namespace Unserved

variable {o p q : Outline S}

theorem refl (o : Outline S) : Unserved o o :=
  ⟨[], rfl, nofun⟩

theorem suffix (unserved : Unserved o p) : o.history <:+ p.history := by
  obtain ⟨more, history, -⟩ := unserved
  exact ⟨more, history.symm⟩

theorem trans (first : Unserved o p) (second : Unserved p q) : Unserved o q := by
  obtain ⟨more, history, plain⟩ := first
  obtain ⟨later, history', plain'⟩ := second
  refine ⟨later ++ more, ?_, fun m made => ?_⟩
  · rw [history', history, List.append_assoc]
  · exact (List.mem_append.mp made).elim (plain' m) (plain m)

theorem same (unserved : Unserved o p) (history : q.history = p.history) : Unserved o q := by
  obtain ⟨more, before, plain⟩ := unserved
  exact ⟨more, history.trans before, plain⟩

theorem marked {m : Mark S} (unserved : Unserved o p) (history : q.history = m :: p.history)
    (plain : m.serves = false) : Unserved o q :=
  unserved.trans ⟨[m], history, fun _ made => List.mem_singleton.mp made ▸ plain⟩

theorem retired (unserved : Unserved o p) : Unserved o p.retired := by
  simp only [Outline.retired]
  split
  · exact unserved
  · exact unserved.marked rfl rfl

end Unserved

namespace Kept

variable {o p : Outline S}

theorem same (kept : Kept o) (history : p.history = o.history) (phase : p.phase = o.phase)
    (ready : p.ready = o.ready) (worker : p.worker = o.worker) (cycles : o.cycles ≤ p.cycles) :
    Kept p := by
  refine ⟨?_, ?_, ?_, ?_, ?_, ?_⟩
  · rw [history]
    exact kept.lawful
  · rw [history, ready]
    exact kept.ready_eq
  · rw [history, worker]
    exact kept.unjoined_eq
  · rw [history, phase]
    exact kept.finished_iff
  · rw [history, phase]
    exact kept.prepared_iff
  · rw [history]
    exact fun cycle h => Nat.le_trans (kept.started_le cycle h) cycles

/-- A mark that tells neither of a preparation that succeeds nor of the end. -/
theorem marked {m : Mark S} (kept : Kept o) (permitted : History.Permits o.history m)
    (prepares : ∀ size, m ≠ .call (.prepare size) .ok)
    (finishes : ∀ outcome, m ≠ .call .finish outcome)
    (history : p.history = m :: o.history) (phase : p.phase = o.phase)
    (ready : p.ready = History.isOpen (m :: o.history))
    (worker : History.unjoined (m :: o.history) = p.worker.toList)
    (cycles : o.cycles = p.cycles) (started : ∀ cycle, m = .started cycle → cycle ≤ p.cycles) :
    Kept p := by
  refine ⟨?_, ?_, ?_, ?_, ?_, ?_⟩
  · rw [history]
    exact ⟨permitted, kept.lawful⟩
  · rw [history, ready]
  · rw [history, worker]
  · rw [history, phase, History.finished_cons finishes]
    exact kept.finished_iff
  · rw [history, phase, History.finished_cons finishes, History.prepared_cons_iff prepares]
    exact kept.prepared_iff
  · rw [history]
    intro cycle h
    rcases List.mem_cons.mp h with here | before
    · exact started cycle here.symm
    · exact cycles ▸ kept.started_le cycle before

theorem quiet (kept : Kept o) (closed : o.ready = false) (free : o.worker = none) :
    History.Quiet o.history :=
  ⟨kept.ready_eq ▸ closed, by rw [kept.unjoined_eq, free]; rfl⟩

theorem unfinished (kept : Kept o) (alive : o.phase ≠ .finished) : ¬History.Finished o.history :=
  fun finished => alive (kept.finished_iff.mpr finished)

theorem entered (kept : Kept o) {next : Stage} (allowed : o.stage.allows next = true) :
    Kept (o.entered next) :=
  kept.marked (m := .moved o.stage next) allowed (by simp) (by simp) rfl rfl kept.ready_eq
    kept.unjoined_eq rfl (by simp)

theorem closed (kept : Kept o) : Kept o.closed :=
  kept.marked (m := .readiness false) trivial (by simp) (by simp) rfl rfl rfl kept.unjoined_eq rfl
    (by simp)

theorem opened (kept : Kept o) (served : History.Served o.history) : Kept o.opened :=
  kept.marked (m := .readiness true) served (by simp) (by simp) rfl rfl rfl kept.unjoined_eq rfl
    (by simp)

theorem retired (kept : Kept o) (closed : o.ready = false) : Kept o.retired := by
  simp only [Outline.retired]
  split
  · exact kept
  · next cycle held =>
      have left : History.unjoined o.history = [cycle] := by
        rw [kept.unjoined_eq, held]
        rfl
      refine kept.marked (m := .joined cycle) ⟨kept.ready_eq ▸ closed, left⟩ (by simp) (by simp)
        rfl rfl kept.ready_eq ?_ rfl (by simp)
      simp [History.unjoined, left, Outline.mark]

theorem fed (kept : Kept o) (ready : o.ready = true) (event : Input.Event) :
    Kept (o.mark (.call (.input event) .ok)) :=
  kept.marked (m := .call (.input event) .ok) (kept.ready_eq.symm.trans ready) (by simp) (by simp)
    rfl rfl kept.ready_eq kept.unjoined_eq rfl (by simp)

end Kept
end SurfaceGate.Outline
