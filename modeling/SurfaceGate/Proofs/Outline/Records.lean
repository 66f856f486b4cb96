import SurfaceGate.Proofs.Outline.Lawful
import SurfaceGate.Proofs.Outline.Mirror

/-!
What the calls in a journal tell of its history.

The lifecycle calls of the engine are the same in both. Frames are in the journal alone, and each has
its place there.
-/

namespace SurfaceGate

variable {E : Engine} {H : Type}

/-- The lifecycle calls among some calls, with their outcomes. -/
def lifecycleOf (calls : List (CallRecord E)) : List (Call E.Surface × Outcome) :=
  calls.filterMap fun record =>
    if record.call.isLifecycle then some (record.call, record.outcome) else none

/-- The latest of the calls of some kind, with its outcome. -/
def latest (kind : Call E.Surface → Bool) (calls : List (CallRecord E)) :
    Option (Call E.Surface × Outcome) :=
  (calls.find? fun record => kind record.call).map fun record => (record.call, record.outcome)

def Call.isPrepare {S : Type} : Call S → Bool
  | .prepare _ => true
  | _ => false

def Call.isAttach {S : Type} : Call S → Bool
  | .attach _ => true
  | _ => false

theorem Call.isLifecycle_of_isPrepare {S : Type} (call : Call S) (h : call.isPrepare = true) :
    call.isLifecycle = true := by
  cases call with
  | prepare _ => rfl
  | attach _ | render | input _ | finish => cases h

theorem Call.isLifecycle_of_isAttach {S : Type} (call : Call S) (h : call.isAttach = true) :
    call.isLifecycle = true := by
  cases call with
  | attach _ => rfl
  | prepare _ | render | input _ | finish => cases h

def CallRecord.takes : CallRecord E → Bool
  | ⟨_, .attach (some _), _, .ok⟩ => true
  | _ => false

theorem latest_eq {kind : Call E.Surface → Bool}
    (begins : ∀ call, kind call = true → call.isLifecycle = true) (calls : List (CallRecord E)) :
    latest kind calls = (lifecycleOf calls).find? fun call => kind call.1 := by
  induction calls with
  | nil => rfl
  | cons record older ih =>
      unfold latest lifecycleOf at *
      cases found : kind record.call with
      | true => simp [found, begins record.call found]
      | false =>
          cases counts : record.call.isLifecycle with
          | true => simpa [found, counts] using ih
          | false => simpa [found, counts] using ih

namespace History

variable {S : Type}

theorem mem_lifecycle {h : History S} {call : Call S} {outcome : Outcome}
    (begins : call.isLifecycle = true) :
    (call, outcome) ∈ lifecycle h ↔ .call call outcome ∈ h := by
  induction h with
  | nil => simp [lifecycle]
  | cons mark older ih =>
      cases mark with
      | call made came =>
          by_cases counts : made.isLifecycle = true
          · simp [lifecycle, counts, ih]
          · have other : call ≠ made := fun same => counts (same ▸ begins)
            simp [lifecycle, counts, ih, other]
      | readiness _ | moved _ _ | started _ | joined _ => simpa [lifecycle] using ih

end History

namespace Journal

/-- Every call has its place in the journal. -/
theorem suffix_of_calls {journal : Journal E H} {record : CallRecord E} {older : List (CallRecord E)}
    (h : record :: older <:+ journal.calls) :
    ∃ rest : Journal E H, .call record :: rest <:+ journal ∧ rest.calls = older := by
  induction journal with
  | nil => cases List.suffix_nil.mp h
  | cons entry rest ih =>
      cases entry with
      | call made =>
          rcases List.suffix_cons_iff.mp h with same | before
          · obtain ⟨rfl, rfl⟩ := List.cons.inj same
            exact ⟨rest, List.suffix_rfl, rfl⟩
          · obtain ⟨deeper, suffix, same⟩ := ih before
            exact ⟨deeper, suffix.trans (List.suffix_cons _ _), same⟩
      | line _ _ | readiness _ | moved _ _ | started _ | joined _ _ | host _ =>
          obtain ⟨deeper, suffix, same⟩ := ih h
          exact ⟨deeper, suffix.trans (List.suffix_cons _ _), same⟩

theorem lifecycleOf_calls (journal : Journal E H) :
    lifecycleOf journal.calls = History.lifecycle journal.history := by
  induction journal with
  | nil => rfl
  | cons entry rest ih =>
      cases entry with
      | call record =>
          obtain ⟨thread, call, deeds, outcome⟩ := record
          cases call with
          | prepare _ | attach _ | finish => exact congrArg (_ :: ·) ih
          | render | input _ => exact ih
      | line _ _ | readiness _ | moved _ _ | started _ | joined _ _ | host _ => exact ih

theorem taken_history (journal : Journal E H) :
    History.taken journal.history = (journal.calls.filter CallRecord.takes).length := by
  induction journal with
  | nil => rfl
  | cons entry rest ih =>
      cases entry with
      | call record =>
          obtain ⟨thread, call, deeds, outcome⟩ := record
          cases call with
          | attach surface =>
              cases surface with
              | none => exact ih
              | some surface =>
                  cases outcome with
                  | ok => exact congrArg (· + 1) ih
                  | failed _ | panicked _ => exact ih
          | prepare _ | render | input _ | finish => exact ih
      | line _ _ | readiness _ | moved _ _ | started _ | joined _ _ | host _ => exact ih

theorem mem_history {journal : Journal E H} {call : Call E.Surface} {outcome : Outcome}
    (begins : call.isLifecycle = true) :
    .call call outcome ∈ journal.history ↔
      ∃ record ∈ journal.calls, record.call = call ∧ record.outcome = outcome := by
  rw [← History.mem_lifecycle begins, ← lifecycleOf_calls, lifecycleOf, List.mem_filterMap]
  constructor
  · rintro ⟨record, made, kept⟩
    obtain ⟨-, same⟩ := Option.ite_none_right_eq_some.mp kept
    exact ⟨record, made, Prod.mk.inj (Option.some.inj same)⟩
  · rintro ⟨record, made, rfl, rfl⟩
    exact ⟨record, made, by simp [begins]⟩

theorem prepared_history (journal : Journal E H) :
    History.Prepared journal.history ↔
      ∃ record ∈ journal.calls, ∃ size, record.call = .prepare size ∧ record.outcome = .ok := by
  constructor
  · rintro ⟨size, made⟩
    obtain ⟨record, made, same, ok⟩ := (mem_history rfl).mp made
    exact ⟨record, made, size, same, ok⟩
  · rintro ⟨record, made, size, same, ok⟩
    exact ⟨size, (mem_history rfl).mpr ⟨record, made, same, ok⟩⟩

theorem finished_history (journal : Journal E H) :
    History.Finished journal.history ↔ ∃ record ∈ journal.calls, record.call = .finish := by
  constructor
  · rintro ⟨outcome, made⟩
    obtain ⟨record, made, same, -⟩ := (mem_history rfl).mp made
    exact ⟨record, made, same⟩
  · rintro ⟨record, made, same⟩
    exact ⟨record.outcome, (mem_history rfl).mpr ⟨record, made, same, rfl⟩⟩

theorem call_of_mark {entry : Entry E H} {call : Call E.Surface} {outcome : Outcome}
    (h : entry.mark? = some (.call call outcome)) :
    ∃ record, entry = .call record ∧ record.call = call := by
  cases entry with
  | call record =>
      obtain ⟨thread, made, deeds, came⟩ := record
      cases made with
      | render => cases h
      | prepare _ | attach _ | input _ | finish =>
          cases h
          exact ⟨_, rfl, rfl⟩
  | line _ _ | readiness _ | moved _ _ | started _ | joined _ _ | host _ => cases h

/-- A call on the history is among the calls; frames are on no history. -/
theorem exists_call {journal : Journal E H} {call : Call E.Surface} {outcome : Outcome}
    (made : .call call outcome ∈ journal.history) : ∃ record ∈ journal.calls, record.call = call := by
  obtain ⟨entry, written, marked⟩ := List.mem_filterMap.mp made
  obtain ⟨record, rfl, same⟩ := call_of_mark marked
  exact ⟨record, List.mem_filterMap.mpr ⟨_, written, rfl⟩, same⟩

theorem history_append (entries older : Journal E H) :
    Journal.history (entries ++ older) = Journal.history entries ++ older.history :=
  List.filterMap_append

theorem history_of_append {entries older newer : Journal E H} {marks : History E.Surface}
    (grown : entries ++ older = newer) (history : newer.history = marks ++ older.history) :
    Journal.history entries = marks := by
  have both : Journal.history entries ++ older.history = marks ++ older.history := by
    rw [← history, ← grown, history_append]
  exact List.append_cancel_right both

theorem gated_of_suffix {older newer : Journal E H} (hs : older <:+ newer) (h : newer.Gated) :
    older.Gated := by
  induction newer with
  | nil => rwa [List.suffix_nil.mp hs]
  | cons entry rest ih =>
      rcases List.suffix_cons_iff.mp hs with rfl | hs
      · exact h
      · exact ih hs h.2

theorem mem_started {journal : Journal E H} {cycle : Nat} :
    .started cycle ∈ journal.history ↔ .started cycle ∈ journal := by
  constructor
  · intro marked
    obtain ⟨entry, written, same⟩ := List.mem_filterMap.mp marked
    cases entry with
    | started _ =>
        cases same
        exact written
    | call record =>
        obtain ⟨_, call, _, _⟩ := record
        cases call <;> cases same
    | line _ _ | readiness _ | moved _ _ | joined _ _ | host _ => cases same
  · exact fun written => List.mem_filterMap.mpr ⟨_, written, rfl⟩

theorem started_of_unjoined {older entries : Journal E H} (joined : History.unjoined older.history = [])
    (left : History.unjoined (Journal.history (entries ++ older)) ≠ []) :
    ∃ cycle, .started cycle ∈ entries := by
  rw [history_append] at left
  exact (History.started_of_unjoined joined left).imp fun _ => mem_started.mp

/-- Where no worker is left and none is started, what the history tells of the calls is all. -/
theorem unserved_calls {older entries : Journal E H} (gated : Journal.Gated (entries ++ older))
    (joined : History.unjoined older.history = [])
    (plain : ∀ mark ∈ Journal.history entries, mark.serves = false) :
    ∀ record ∈ Journal.calls entries, record.call.isServed = false := by
  intro record made
  obtain ⟨newer, others, split⟩ := List.append_of_mem made
  have here : record :: others <:+ Journal.calls entries := ⟨newer, split.symm⟩
  obtain ⟨earlier, ⟨later, rfl⟩, -⟩ := suffix_of_calls here
  obtain ⟨thread, call, deeds, outcome⟩ := record
  cases call with
  | prepare _ | attach _ | finish => rfl
  | input event =>
      have marked : .call (.input event) outcome ∈
          Journal.history (later ++ .call ⟨thread, .input event, deeds, outcome⟩ :: earlier) :=
        List.mem_filterMap.mpr ⟨_, List.mem_append_right later List.mem_cons_self, rfl⟩
      cases plain _ marked
  | render =>
      -- A frame needs a worker, and none was started before it.
      rw [List.append_assoc] at gated
      have drawn := gated_of_suffix (List.suffix_append _ _) gated
      obtain ⟨cycle, started⟩ := started_of_unjoined joined (drawn.1 rfl).2
      have marked : .started cycle ∈
          Journal.history (later ++ .call ⟨thread, .render, deeds, outcome⟩ :: earlier) :=
        mem_started.mpr (List.mem_append_right later (List.mem_cons_of_mem _ started))
      cases plain _ marked

end Journal

end SurfaceGate
