import SurfaceGate.Proofs.Outline.Calls
import SurfaceGate.Proofs.Outline.Records

/-!
The engine is called in order.

Whatever the host does, however the engine answers and wherever a call is left by a panic, the calls
that reach the engine keep its contract. The calls of the host do so since each is permitted by the
history before it, and the frames of the worker since each passed an open gate.
-/

namespace SurfaceGate

variable {E : Engine} {H : Type}

/-- The contract of an engine, for its calls with the newest first. -/
structure Obeys (calls : List (CallRecord E)) : Prop where
  /-- Frames and input come behind a surface that the engine took, and this right behind a preparation
  that succeeded. -/
  served : ∀ record older, record :: older <:+ calls → record.call.isServed = true →
    ∃ surface size earlier,
      lifecycleOf older = (.attach (some surface), .ok) :: (.prepare size, .ok) :: earlier
  attached : ∀ record older surface, record :: older <:+ calls → record.call = .attach surface →
    ∃ size, (.prepare size, .ok) ∈ lifecycleOf older
  finished : ∀ record older, record :: older <:+ calls → ∀ before ∈ older, before.call ≠ .finish

/-- What stands behind a call that reached the engine. -/
structure Founded (call : Call E.Surface) (h : History E.Surface) : Prop where
  served : call.isServed = true → History.Served h
  attached : ∀ surface, call = .attach surface → History.Prepared h
  unfinished : ¬History.Finished h

theorem founded_of_lawful {record : CallRecord E} {older : Journal E H}
    (lawful : History.Lawful (Journal.history (.call record :: older)))
    (gated : Journal.Gated (.call record :: older)) : Founded record.call older.history := by
  obtain ⟨thread, call, deeds, outcome⟩ := record
  cases call with
  | render =>
      have served := History.served_of_open lawful (gated.1 rfl).1
      exact ⟨fun _ => served, nofun, served.unfinished⟩
  | input event =>
      have served := History.served_of_open lawful.2 lawful.1
      exact ⟨fun _ => served, nofun, served.unfinished⟩
  | prepare size => exact ⟨nofun, nofun, lawful.1.2⟩
  | attach surface => exact ⟨nofun, fun _ _ => lawful.1.2.1, lawful.1.2.2⟩
  | finish => exact ⟨nofun, nofun, lawful.1.2.2⟩

theorem obeys_of_lawful {journal : Journal E H} (lawful : History.Lawful journal.history)
    (gated : journal.Gated) : Obeys journal.calls := by
  have founded {record : CallRecord E} {rest : Journal E H}
      (suffix : .call record :: rest <:+ journal) : Founded record.call rest.history :=
    founded_of_lawful (History.lawful_of_suffix (Journal.suffix_history suffix) lawful)
      (Journal.gated_of_suffix suffix gated)
  refine ⟨fun record older hs served => ?_, fun record older surface hs attached => ?_,
    fun record older hs before made => ?_⟩
  · obtain ⟨rest, suffix, rfl⟩ := Journal.suffix_of_calls hs
    rw [Journal.lifecycleOf_calls]
    exact ((founded suffix).served served).bound
  · obtain ⟨rest, suffix, rfl⟩ := Journal.suffix_of_calls hs
    rw [Journal.lifecycleOf_calls]
    obtain ⟨size, prepared⟩ := (founded suffix).attached surface attached
    exact ⟨size, (History.mem_lifecycle rfl).mpr prepared⟩
  · obtain ⟨rest, suffix, rfl⟩ := Journal.suffix_of_calls hs
    intro finish
    exact (founded suffix).unfinished ((Journal.finished_history rest).mpr ⟨before, made, finish⟩)

/-- Every run keeps the contract of the engine: any calls of the host, any frames between and amid
them, any outcome of the engine's calls and of the start of threads. -/
theorem run_obeys (engine : E.State) (settings : RenderSettings) (turns : List (Turn E.Surface H)) :
    Obeys ((Controller.new engine settings : Controller E H).run turns).session.journal.calls :=
  have sound := (Controller.sound_new engine settings).run turns
  obeys_of_lawful sound.outline.lawful sound.gated.frames

end SurfaceGate
