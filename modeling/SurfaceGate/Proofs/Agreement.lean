import SurfaceGate.Engine.Scripted
import SurfaceGate.Proofs.Outline.Calls
import SurfaceGate.Proofs.Outline.Records

/-!
The parts of a controller agree as long as no call is left by a panic.

Stage, gate, worker, surface and size change at different points of a call, and most of a call's early
ends leave some of them unchanged. Between two calls they say the same again, and what they say is
true of the calls that reached the engine.
-/

namespace SurfaceGate

variable {E : Engine} {H : Type}

structure Up (c : Controller E H) : Prop where
  prepared : c.session.gate.phase = .prepared
  /-- The surface is the one that the engine was given last, and it took it. -/
  surface : latest Call.isAttach c.session.journal.calls = some (.attach c.surface, .ok)
  /-- The size is the one that the engine was prepared for last. -/
  size : ∃ size, c.size = some size ∧
    latest Call.isPrepare c.session.journal.calls = some (.prepare size, .ok)
  worker : c.session.worker.map Worker.cycle = some c.cycles

structure Agrees (c : Controller E H) : Prop where
  settled : c.stage = .idle ∨ c.stage = .ready
  open_iff : c.isOpen = true ↔ c.stage = .ready
  worker_iff : c.holdsWorker = true ↔ c.stage = .ready
  surface_iff : c.surface.isSome = true ↔ c.stage = .ready
  size_iff : c.size.isSome = true ↔ c.stage = .ready
  bound_iff : c.session.gate.bound = true ↔ c.stage = .ready
  up : c.stage = .ready → Up c
  cycles : c.cycles = (c.session.journal.calls.filter CallRecord.takes).length
  ended : c.ended = true → c.stage = .idle ∧ c.session.gate.phase ≠ .prepared
  finished : c.session.gate.phase = .finished → c.ended = true
  prepared_iff : c.session.gate.phase = .prepared ↔
    (∃ record ∈ c.session.journal.calls, ∃ size,
      record.call = .prepare size ∧ record.outcome = .ok) ∧
    ∀ record ∈ c.session.journal.calls, record.call ≠ .finish

theorem Outline.Live.up {c : Controller E H} (live : c.outline.Live) : Up c := by
  obtain ⟨surface, size, held, sized, earlier, last⟩ := live.last
  have calls : lifecycleOf c.session.journal.calls =
      (.attach (some surface), .ok) :: (.prepare size, .ok) :: earlier :=
    (Journal.lifecycleOf_calls _).trans last
  refine ⟨live.prepared, ?_, ⟨size, sized, ?_⟩, live.worker⟩
  · rw [latest_eq Call.isLifecycle_of_isAttach, calls, show c.surface = some surface from held]
    rfl
  · rw [latest_eq Call.isLifecycle_of_isPrepare, calls]
    rfl

theorem agrees_of_sound {c : Controller E H} (sound : c.outline.Sound)
    (settled : ¬c.outline.Stranded) : Agrees c := by
  have cycles := sound.count.symm.trans (Journal.taken_history c.session.journal)
  have unfinished : ¬History.Finished c.session.journal.history ↔
      ∀ record ∈ c.session.journal.calls, record.call ≠ .finish :=
    (not_congr (Journal.finished_history c.session.journal)).trans
      ⟨fun none record made same => none ⟨record, made, same⟩,
        fun none ⟨record, made, same⟩ => none record made same⟩
  have prepared := sound.prepared_iff.trans
    (and_congr (Journal.prepared_history c.session.journal) unfinished)
  rcases sound.stands with idle | live | stranded
  · have stage : c.stage = .idle := idle.stage
    have elsewhere : c.stage ≠ .ready := by
      rw [stage]
      nofun
    have free : c.session.worker = none := Option.map_eq_none_iff.mp idle.free
    have surface : c.surface = none := idle.surface
    have size : c.size = none := idle.size
    exact
      { settled := .inl stage
        open_iff := iff_of_false (ne_true_of_eq_false idle.closed) elsewhere
        worker_iff := iff_of_false (by simp [Controller.holdsWorker, free]) elsewhere
        surface_iff := iff_of_false (by simp [surface]) elsewhere
        size_iff := iff_of_false (by simp [size]) elsewhere
        bound_iff := iff_of_false (ne_true_of_eq_false idle.unbound) elsewhere
        up := fun ready => absurd ready elsewhere
        cycles
        ended := fun ended => ⟨stage, sound.spent ended⟩
        finished := sound.ends
        prepared_iff := prepared }
  · have stage : c.stage = .ready := live.stage
    obtain ⟨surface, size, held, sized, -⟩ := live.last
    have held : c.surface = some surface := held
    have sized : c.size = some size := sized
    have worker : c.session.worker.map Worker.cycle = some c.cycles := live.worker
    have holds : c.holdsWorker = true := by
      simpa [Controller.holdsWorker] using congrArg Option.isSome worker
    exact
      { settled := .inr stage
        open_iff := iff_of_true live.ready stage
        worker_iff := iff_of_true holds stage
        surface_iff := iff_of_true (by simp [held]) stage
        size_iff := iff_of_true (by simp [sized]) stage
        bound_iff := iff_of_true live.bound stage
        up := fun _ => live.up
        cycles
        ended := fun ended => absurd live.prepared (sound.spent ended)
        finished := sound.ends
        prepared_iff := prepared }
  · exact absurd stranded settled

/-- After any run in which each call returns, the parts of the controller agree. -/
theorem run_agrees (engine : E.State) (settings : RenderSettings)
    (turns : List (Turn E.Surface H))
    (returned : ∀ r ∈ (Controller.new engine settings : Controller E H).transcript turns, Returns r) :
    Agrees ((Controller.new engine settings : Controller E H).run turns) := by
  have sound := Controller.sound_new (H := H) engine settings
  have settled : ¬(Controller.new engine settings : Controller E H).outline.Stranded :=
    (Outline.idle_new settings.startPanic?).not_stranded
  exact agrees_of_sound (sound.run turns).outline (sound.settled_run settled turns returned)

/-- The engine fails at its second preparation, in the middle of a rebind, and works again at the
third. -/
theorem run_agrees_failed_rebind :
    Agrees ((Controller.new ⟨none, [.ok, .failed (.of "lost")], [], [], [], .ok, none⟩ .default :
      Controller Script.engine Unit).run
        [.called .calm (.sized ⟨800, 600⟩ (1 : Nat) (.ofRead fun path => .error (.of path))),
          .worked 4,
          .called .calm (.sized ⟨640, 480⟩ (2 : Nat) (.ofRead fun path => .error (.of path))),
          .called .calm (.sized ⟨640, 480⟩ (3 : Nat) (.ofRead fun path => .error (.of path)))]) :=
  run_agrees _ _ _ (by decide +kernel)

end SurfaceGate
