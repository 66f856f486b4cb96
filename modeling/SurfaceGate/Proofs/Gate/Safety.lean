import SurfaceGate.Proofs.Gate.Requests

/-!
A gate guards its engine alone.

No order of requests breaks the gate, whoever makes them and however the engine answers. An open gate
has a prepared engine with a surface; frames and input come through an open gate only, and the other
calls through a closed one; the engine is finished once and hears nothing behind that.
-/

namespace SurfaceGate

variable {E : Engine} {H : Type}

def Phase.rank : Phase → Nat
  | .fresh => 0
  | .prepared => 1
  | .finished => 2

structure Gate.Sound (g : Gate E) : Prop where
  ready : g.ready = true → g.phase = .prepared ∧ g.bound = true
  bound : g.bound = true → g.phase = .prepared

/-- A session in which the gate has kept its word so far. -/
structure Session.Settled (s : Session E H) : Prop where
  sound : s.gate.Sound
  prepared : s.gate.phase = .prepared →
    ∃ record ∈ s.journal.calls, ∃ size, record.call = .prepare size ∧ record.outcome = .ok
  unfinished : s.gate.phase ≠ .finished → ∀ record ∈ s.journal.calls, record.call ≠ .finish

/-- Whether a request to open the gate succeeds. -/
def Session.Opens (s : Session E H) : Prop :=
  ∃ t, Gate.allow s = .ok (.ok ()) t

theorem Session.opens_iff (s : Session E H) :
    s.Opens ↔ s.gate.phase = .prepared ∧ s.gate.bound = true := by
  simp only [Opens, Gate.allow_eq]
  split
  · next held => exact iff_of_true ⟨_, rfl⟩ held
  · next unbound => exact iff_of_false nofun unbound

@[simp]
theorem Gate.noted_ready (g : Gate E) (call : Call E.Surface) (outcome : Outcome) :
    (g.noted call outcome).ready = g.ready := by
  simp only [noted]
  split <;> rfl

theorem Gate.prepared_of_noted (g : Gate E) {call : Call E.Surface} {outcome : Outcome}
    (prepared : (g.noted call outcome).phase = .prepared) :
    (∃ size, call = .prepare size ∧ outcome = .ok) ∨ g.phase = .prepared := by
  cases call with
  | prepare size =>
      cases outcome with
      | ok => exact .inl ⟨size, rfl, rfl⟩
      | failed _ | panicked _ => exact .inr prepared
  | attach surface =>
      rcases surface with _ | surface <;> cases outcome <;> exact .inr prepared
  | finish => cases prepared
  | render | input _ => exact .inr prepared

namespace Gate.Admits

variable {g : Gate E} {call : Call E.Surface}

theorem unready (admitted : g.Admits call) (begins : call.isLifecycle = true) : g.ready = false := by
  cases call with
  | prepare _ | attach _ | finish => exact admitted.1
  | render | input _ => cases begins

theorem ready (admitted : g.Admits call) (served : call.isServed = true) : g.ready = true := by
  cases call with
  | prepare _ | attach _ | finish => cases served
  | render | input _ => exact admitted

theorem alive (admitted : g.Admits call) (sound : g.Sound) : g.phase ≠ .finished := by
  cases call with
  | prepare _ => exact admitted.2
  | attach _ | finish => exact fun finished => nomatch admitted.2.symm.trans finished
  | render | input _ => exact fun finished => nomatch (sound.ready admitted).1.symm.trans finished

end Gate.Admits

theorem Gate.Sound.answered {g : Gate E} {call : Call E.Surface} (sound : g.Sound)
    (admitted : g.Admits call) (outcome : Outcome) (engine : E.State) :
    Gate.Sound { g.noted call outcome with engine } := by
  have shut (closed : g.ready = false) (ready : (g.noted call outcome).ready = true) : False := by
    rw [noted_ready, closed] at ready
    cases ready
  cases call with
  | prepare size =>
      refine ⟨fun ready => (shut admitted.1 ready).elim, ?_⟩
      cases outcome with
      | ok => exact fun _ => rfl
      | failed _ | panicked _ => exact sound.bound
  | attach surface =>
      refine ⟨fun ready => (shut admitted.1 ready).elim, fun _ => ?_⟩
      rcases surface with _ | surface <;> cases outcome <;> exact admitted.2
  | finish => exact ⟨fun ready => (shut admitted.1 ready).elim, nofun⟩
  | render | input _ => exact ⟨sound.ready, sound.bound⟩

namespace Handles

variable {thread : Thread} {request : Request E.Surface} {s t : Session E H}

theorem calls (handles : Handles thread s request t) :
    t.journal.calls = s.journal.calls ∨ ∃ call deeds outcome, request.call? = some call ∧
      s.gate.Admits call ∧ t.journal.calls = ⟨thread, call, deeds, outcome⟩ :: s.journal.calls := by
  cases handles with
  | refused _ | unbound _ _ | opened _ _ | closed => exact .inl rfl
  | called call outcome p makes admitted gate journal =>
      refine .inr ⟨call, p.deeds, outcome, makes, admitted, ?_⟩
      rw [journal]
      rfl

/-- The gate is open behind a request that opened it, or behind one that did not close it. -/
theorem ready (handles : Handles thread s request t) (ready : t.gate.ready = true) :
    request = .allow ∧ s.Opens ∨ request ≠ .forbid ∧ s.gate.ready = true := by
  cases handles with
  | refused other => exact .inr ⟨other, ready⟩
  | called call outcome p makes admitted gate journal =>
      refine .inr ⟨?_, ?_⟩
      · rintro rfl
        cases makes
      · simpa [gate] using ready
  | unbound closed unprepared => exact .inr ⟨nofun, ready⟩
  | opened prepared bound => exact .inl ⟨rfl, (Session.opens_iff s).mpr ⟨prepared, bound⟩⟩
  | closed => cases ready

theorem rank_le (handles : Handles thread s request t) :
    s.gate.phase.rank ≤ t.gate.phase.rank := by
  cases handles with
  | refused _ | unbound _ _ | opened _ _ | closed => exact Nat.le_refl _
  | called call outcome p makes admitted gate journal =>
      rw [gate]
      cases call with
      | prepare size =>
          cases outcome with
          | ok =>
              have unfinished := admitted.2
              cases phase : s.gate.phase with
              | fresh | prepared => simp [Phase.rank, Gate.noted]
              | finished => exact absurd phase unfinished
          | failed _ | panicked _ => exact Nat.le_refl _
      | attach surface =>
          cases surface with
          | none => exact Nat.le_refl _
          | some surface =>
              cases outcome with
              | ok | failed _ | panicked _ => exact Nat.le_refl _
      | finish =>
          rw [admitted.2]
          exact Nat.le_succ 1
      | render | input _ => exact Nat.le_refl _

theorem settled (handles : Handles thread s request t) (settled : s.Settled) : t.Settled := by
  cases handles with
  | refused _ => exact settled
  | unbound closed unprepared =>
      refine ⟨⟨fun ready => ?_, nofun⟩, fun prepared => absurd prepared unprepared, settled.unfinished⟩
      exact nomatch closed.symm.trans ready
  | opened prepared bound =>
      exact ⟨⟨fun _ => ⟨prepared, bound⟩, settled.sound.bound⟩, settled.prepared, settled.unfinished⟩
  | closed => exact ⟨⟨nofun, settled.sound.bound⟩, settled.prepared, settled.unfinished⟩
  | called call outcome p makes admitted gate journal =>
      have calls : t.journal.calls = ⟨thread, call, p.deeds, outcome⟩ :: s.journal.calls := by
        rw [journal]
        rfl
      refine ⟨gate ▸ settled.sound.answered admitted outcome p.state, fun prepared => ?_,
        fun alive => ?_⟩
      · rw [gate] at prepared
        rw [calls]
        rcases s.gate.prepared_of_noted prepared with ⟨size, rfl, rfl⟩ | before
        · exact ⟨_, List.mem_cons_self, size, rfl, rfl⟩
        · obtain ⟨record, made, here⟩ := settled.prepared before
          exact ⟨record, List.mem_cons_of_mem _ made, here⟩
      · rw [gate] at alive
        rw [calls]
        refine List.forall_mem_cons.mpr ⟨?_, settled.unfinished (admitted.alive settled.sound)⟩
        rintro rfl
        exact alive rfl

end Handles

namespace Session

/-- The gate was opened by one of the requests, and by none of them closed since. -/
def OpenedBy (s : Session E H) (turns : List (Thread × Request E.Surface)) : Prop :=
  ∃ before thread since, turns = before ++ (thread, .allow) :: since ∧ (s.askedAll before).Opens ∧
    ∀ turn ∈ since, turn.2 ≠ .forbid

/-- How the gate stands where a call reaches the engine, when some requests had been made. -/
structure Clears (s : Session E H) (earlier : List (Thread × Request E.Surface))
    (call : Call E.Surface) : Prop where
  served : call.isServed = true → s.OpenedBy earlier
  closed : call.isLifecycle = true → (s.askedAll earlier).gate.ready = false
  attached : ∀ surface, call = .attach surface → ∃ record ∈ (s.askedAll earlier).journal.calls,
    ∃ size, record.call = .prepare size ∧ record.outcome = .ok
  unfinished : ∀ record ∈ (s.askedAll earlier).journal.calls, record.call ≠ .finish

structure Guards (s : Session E H) (turns : List (Thread × Request E.Surface)) : Prop where
  sound : (s.askedAll turns).gate.Sound
  /-- Each call is made by a request, and stands behind the calls of the requests before it. -/
  clears : ∀ record older, record :: older <:+ (s.askedAll turns).journal.calls →
    ∃ earlier request later, turns = earlier ++ (record.thread, request) :: later ∧
      request.call? = some record.call ∧ (s.askedAll earlier).journal.calls = older ∧
      s.Clears earlier record.call
  forward : ∀ earlier, earlier <+: turns →
    (s.askedAll earlier).gate.phase.rank ≤ (s.askedAll turns).gate.phase.rank

theorem settled_new (engine : E.State) : (new engine : Session E H).Settled :=
  ⟨⟨nofun, nofun⟩, nofun, fun _ _ made => nomatch made⟩

theorem Settled.askedAll {s : Session E H} (settled : s.Settled)
    (turns : List (Thread × Request E.Surface)) : (s.askedAll turns).Settled :=
  askedAll_induct (fun s turn => (Handles.of_asked s turn).settled) settled turns

theorem rank_askedAll_le (s : Session E H) (turns : List (Thread × Request E.Surface)) :
    s.gate.phase.rank ≤ (s.askedAll turns).gate.phase.rank :=
  askedAll_induct (P := fun t => s.gate.phase.rank ≤ t.gate.phase.rank)
    (fun t turn earlier => Nat.le_trans earlier (Handles.of_asked t turn).rank_le) (Nat.le_refl _) turns

/-- An open gate was open before all the requests and none of them closed it, or one opened it. -/
theorem openedBy_of_ready {s : Session E H} {turns : List (Thread × Request E.Surface)}
    (ready : (s.askedAll turns).gate.ready = true) :
    s.gate.ready = true ∧ (∀ turn ∈ turns, turn.2 ≠ .forbid) ∨ s.OpenedBy turns := by
  induction turns generalizing s with
  | nil => exact .inl ⟨ready, nofun⟩
  | cons turn later ih =>
      rcases ih (s := s.asked turn) ready with ⟨before, kept⟩ | ⟨earlier, opener, since, rfl, opened⟩
      · obtain ⟨thread, request⟩ := turn
        rcases (Handles.of_asked s (thread, request)).ready before with ⟨rfl, opens⟩ | ⟨other, first⟩
        · exact .inr ⟨[], thread, later, rfl, opens, kept⟩
        · exact .inl ⟨first, List.forall_mem_cons.mpr ⟨other, kept⟩⟩
      · exact .inr ⟨turn :: earlier, opener, since, rfl, opened⟩

/-- A call was made before all the requests, or by one that the gate admitted. -/
theorem exists_request {s : Session E H} {turns : List (Thread × Request E.Surface)}
    {record : CallRecord E} {older : List (CallRecord E)}
    (made : record :: older <:+ (s.askedAll turns).journal.calls) :
    record :: older <:+ s.journal.calls ∨ ∃ earlier request later,
      turns = earlier ++ (record.thread, request) :: later ∧ request.call? = some record.call ∧
      (s.askedAll earlier).journal.calls = older ∧ (s.askedAll earlier).gate.Admits record.call := by
  induction turns generalizing s with
  | nil => exact .inl made
  | cons turn later ih =>
      rcases ih (s := s.asked turn) made with before | ⟨earlier, request, rest, rfl, here⟩
      · obtain ⟨thread, request⟩ := turn
        rcases (Handles.of_asked s (thread, request)).calls with
          same | ⟨call, deeds, outcome, makes, admitted, calls⟩
        · exact .inl (same ▸ before)
        · rw [calls] at before
          rcases List.suffix_cons_iff.mp before with now | earlier
          · obtain ⟨rfl, rfl⟩ := List.cons.inj now
            exact .inr ⟨[], request, later, rfl, makes, rfl, admitted⟩
          · exact .inl earlier
      · exact .inr ⟨turn :: earlier, request, rest, rfl, here⟩

/-- A gate that is new keeps its word, whatever it is asked, by whom and in which order. -/
theorem guards_askedAll (engine : E.State) (turns : List (Thread × Request E.Surface)) :
    (new engine : Session E H).Guards turns := by
  have settled := (settled_new engine : (new engine : Session E H).Settled).askedAll
  refine ⟨(settled turns).sound, fun record older made => ?_, ?_⟩
  · rcases exists_request made with before | ⟨earlier, request, later, rfl, makes, calls, admitted⟩
    · cases List.suffix_nil.mp before
    · refine ⟨earlier, request, later, rfl, makes, calls, ?_⟩
      refine ⟨fun served => ?_, admitted.unready, ?_, ?_⟩
      · have opened := openedBy_of_ready (admitted.ready served)
        exact opened.resolve_left fun before => nomatch before.1
      · rintro surface attached
        rw [attached] at admitted
        exact (settled earlier).prepared admitted.2
      · exact (settled earlier).unfinished (admitted.alive (settled earlier).sound)
  · rintro earlier ⟨later, rfl⟩
    rw [askedAll_append]
    exact rank_askedAll_le _ later

end Session

end SurfaceGate
