import SurfaceGate.Proofs.Outline.Mirror
import SurfaceGate.Proofs.Worker.Keeping

/-!
No step of a worker shows on an outline.

A worker draws frames, counts them and writes lines, and it moves from place to place in its loop. The
steps that it takes by itself leave the gate's flags, the worker's cycle and the history as they are,
and its frames keep the session gated. Only the join shows.
-/

namespace SurfaceGate

variable {E : Engine} {H : Type}

namespace Session

/-- Nothing that an outline shows tells `t` from `s`. -/
structure Unmoved (s t : Session E H) : Prop where
  journal : s.journal <:+ t.journal
  phase : t.gate.phase = s.gate.phase
  bound : t.gate.bound = s.gate.bound
  ready : t.gate.ready = s.gate.ready
  worker : t.worker.map Worker.cycle = s.worker.map Worker.cycle
  history : t.journal.history = s.journal.history
  gated : s.Gated → t.Gated

namespace Unmoved

theorem refl (s : Session E H) : s.Unmoved s :=
  ⟨List.suffix_rfl, rfl, rfl, rfl, rfl, rfl, id⟩

theorem trans {s t u : Session E H} (h : s.Unmoved t) (k : t.Unmoved u) : s.Unmoved u :=
  ⟨h.journal.trans k.journal, k.phase.trans h.phase, k.bound.trans h.bound, k.ready.trans h.ready,
    k.worker.trans h.worker, k.history.trans h.history, k.gated ∘ h.gated⟩

theorem setEngine (s : Session E H) (engine : E.State) :
    s.Unmoved { s with gate := { s.gate with engine } } :=
  ⟨List.suffix_rfl, rfl, rfl, rfl, rfl, rfl, fun g => ⟨g.frames, g.ready_eq, g.unjoined, g.owned⟩⟩

theorem setWorker {s : Session E H} {w v : Worker} (held : s.worker = some w)
    (same : v.cycle = w.cycle) : s.Unmoved (s.setWorker v) := by
  have cycle : (s.setWorker v).worker.map Worker.cycle = s.worker.map Worker.cycle := by
    simp [Session.setWorker, held, same]
  refine ⟨List.suffix_rfl, rfl, rfl, rfl, cycle, rfl, fun g => ⟨g.frames, g.ready_eq, ?_, g.owned⟩⟩
  rw [cycle]
  exact g.unjoined

theorem render_of_unmarked {record : CallRecord E}
    (unmarked : (Entry.call record : Entry E H).mark? = none) : record.call = .render := by
  obtain ⟨thread, call, deeds, outcome⟩ := record
  cases call with
  | render => rfl
  | prepare _ | attach _ | input _ | finish => cases unmarked

/-- A frame needs an open gate and a worker; any other entry without a mark may be written. -/
theorem write {s : Session E H} {entry : Entry E H} (unmarked : entry.mark? = none)
    (frame : ∀ record, entry = .call record →
      s.gate.ready = true ∧ s.worker.isSome ∧ record.thread ≠ .host) :
    s.Unmoved (s.write entry) := by
  have same : (s.write entry).journal.history = s.journal.history := by
    simp [Session.write, Journal.history, unmarked]
  refine ⟨List.suffix_cons _ _, rfl, rfl, rfl, rfl, same, fun g => ⟨⟨?_, g.frames⟩, ?_, ?_, ?_⟩⟩
  · cases entry with
    | call record =>
        intro drawn
        obtain ⟨ready, held, -⟩ := frame record rfl
        obtain ⟨w, hw⟩ := Option.isSome_iff_exists.mp held
        refine ⟨g.ready_eq ▸ ready, ?_⟩
        exact List.ne_nil_of_mem (g.unjoined w.cycle (by simp [hw]))
    | line _ _ | readiness _ | moved _ _ | started _ | joined _ _ | host _ => exact False.elim
  · rw [same]
    exact g.ready_eq
  · rw [same]
    exact g.unjoined
  · cases entry with
    | call record =>
        have foreign := (frame record rfl).2.2
        have drawn := render_of_unmarked unmarked
        exact List.forall_mem_cons.mpr ⟨iff_of_false foreign (not_not_intro drawn), g.owned⟩
    | line _ _ | readiness _ | moved _ _ | started _ | joined _ _ | host _ => exact g.owned

theorem line (s : Session E H) (thread : Thread) (line : Log.Line) :
    s.Unmoved (s.write (.line thread line)) :=
  write rfl nofun

theorem frame {s : Session E H} {w : Worker} (held : s.worker = some w)
    (ready : s.gate.ready = true) (name : String) (outcome : Outcome)
    (p : Performance E.State E.Effect) : s.Unmoved (s.close (.worker name) .render outcome p) := by
  refine (setEngine s p.state).trans (write rfl fun record same => ⟨ready, by simp [held], ?_⟩)
  cases same
  nofun

theorem keeps (s : Session E H) : Keeps (s.Unmoved ·) where
  moves held same unmoved := unmoved.trans (setWorker held same)
  speaks _ _ unmoved := unmoved.trans (line _ _ _)
  draws held ready _ unmoved := unmoved.trans (frame held ready _ _ _)

theorem steps (n : Nat) (s : Session E H) : s.Unmoved (s.steps n) :=
  (keeps s).steps n (refl s)

theorem stopWorker (s : Session E H) : s.Unmoved s.stopWorker := by
  refine ⟨List.suffix_rfl, rfl, rfl, rfl, ?_, rfl, fun g => ⟨g.frames, g.ready_eq, ?_, g.owned⟩⟩
  · cases held : s.worker <;> simp [Session.stopWorker, Worker.askToEnd, held]
  · have unjoined := g.unjoined
    cases held : s.worker <;> simp_all [Session.stopWorker, Worker.askToEnd]

end Unmoved

structure Joined (cycle : Nat) (s t : Session E H) : Prop where
  journal : s.journal <:+ t.journal
  phase : t.gate.phase = s.gate.phase
  bound : t.gate.bound = s.gate.bound
  ready : t.gate.ready = s.gate.ready
  worker : t.worker = none
  history : t.journal.history = .joined cycle :: s.journal.history
  gated : s.Gated → t.Gated

theorem Unmoved.joined {cycle : Nat} {s t u : Session E H} (h : s.Unmoved t)
    (k : Joined cycle t u) : Joined cycle s u :=
  ⟨h.journal.trans k.journal, k.phase.trans h.phase, k.bound.trans h.bound,
    k.ready.trans h.ready, k.worker, k.history.trans (congrArg _ h.history), k.gated ∘ h.gated⟩

theorem unmoved_halt (s : Session E H) : s.Unmoved (s.stopWorker.steps stepsToEnd) :=
  (Unmoved.stopWorker s).trans (Unmoved.steps _ _)

theorem takeWorker_none {s : Session E H} (free : s.worker = none) :
    ∃ t, s.takeWorker = (none, t) ∧ s.Unmoved t := by
  have halt := unmoved_halt s
  have gone : (s.stopWorker.steps stepsToEnd).worker = none := by
    simpa [free] using halt.worker
  exact ⟨_, takeWorker_of_free gone, halt⟩

theorem takeWorker_some {s : Session E H} {w : Worker} (held : s.worker = some w) :
    ∃ v ending t, s.takeWorker = (some (v, ending), t) ∧ Joined w.cycle s t := by
  have halt := unmoved_halt s
  obtain ⟨v, hv, cycle⟩ : ∃ v, (s.stopWorker.steps stepsToEnd).worker = some v ∧
      v.cycle = w.cycle := by
    simpa [held] using halt.worker
  rw [← cycle]
  refine ⟨v, _, _, takeWorker_of_held hv, halt.joined ?_⟩
  simp only [join]
  -- A worker whose thread died leaves a line of the host behind, before the join.
  split
  · exact ⟨(List.suffix_cons _ _).trans (List.suffix_cons _ _), rfl, rfl, rfl, rfl, rfl,
      fun g => ⟨⟨False.elim, False.elim, g.frames⟩, g.ready_eq, by simp [Session.write], g.owned⟩⟩
  · exact ⟨List.suffix_cons _ _, rfl, rfl, rfl, rfl, rfl,
      fun g => ⟨⟨False.elim, g.frames⟩, g.ready_eq, by simp [Session.write], g.owned⟩⟩

end Session
end SurfaceGate
