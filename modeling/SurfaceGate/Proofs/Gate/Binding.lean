import SurfaceGate.Engine.Scripted
import SurfaceGate.Proofs.Gate.Safety
import SurfaceGate.Proofs.Outline.Records

/-!
What a bound gate knows of its engine.

A gate is bound while the engine was given a surface that it took, and none was taken back since. That is
less than it should be: an engine that is given another surface on top and does not take it may have
lost the first one too, but the gate stays bound and can be opened. Short of that the surface given last
is the one that the engine took.
-/

namespace SurfaceGate

variable {E : Engine} {H : Type}

/-- The engine took a surface, and none was taken back since; calls with the newest first. -/
def holds : List (CallRecord E) → Bool
  | [] => false
  | ⟨_, .attach (some _), _, .ok⟩ :: _ => true
  | ⟨_, .attach none, _, _⟩ :: _ => false
  | _ :: older => holds older

/-- The surface that was given or taken back last was given, and the engine took it. -/
def TookLast (calls : List (CallRecord E)) : Prop :=
  ∃ surface, latest Call.isAttach calls = some (.attach (some surface), .ok)

/-- The surface that was given or taken back last was given on top of one that the engine held, and
the engine did not take it. -/
def Overruled (calls : List (CallRecord E)) : Prop :=
  ∃ newer record older surface, calls = newer ++ record :: older ∧
    (∀ other ∈ newer, other.call.isAttach = false) ∧ record.call = .attach (some surface) ∧
    record.outcome ≠ .ok ∧ holds older = true

section Calls

variable {record : CallRecord E} {older : List (CallRecord E)}

theorem holds_cons (other : record.call.isAttach = false) : holds (record :: older) = holds older := by
  obtain ⟨thread, call, deeds, outcome⟩ := record
  cases call with
  | attach _ => cases other
  | prepare _ | render | input _ | finish => rfl

theorem tookLast_cons (other : record.call.isAttach = false) :
    TookLast (record :: older) ↔ TookLast older := by
  simp only [TookLast, latest, List.find?_cons, other]

theorem overruled_cons (other : record.call.isAttach = false) :
    Overruled (record :: older) ↔ Overruled older := by
  constructor
  · rintro ⟨newer, last, rest, surface, split, others, given, refused, held⟩
    rcases List.cons_eq_append_iff.mp split with ⟨rfl, same⟩ | ⟨newer, rfl, same⟩
    · obtain ⟨rfl, rfl⟩ := List.cons.inj same
      rw [given] at other
      cases other
    · exact ⟨newer, last, rest, surface, same, (List.forall_mem_cons.mp others).2, given, refused, held⟩
  · rintro ⟨newer, last, rest, surface, rfl, others, given, refused, held⟩
    exact ⟨record :: newer, last, rest, surface, rfl, List.forall_mem_cons.mpr ⟨other, others⟩, given,
      refused, held⟩

/-- A surface that the engine took is not overruled. -/
theorem not_overruled_of_taken {thread : Thread} {surface : E.Surface} {deeds : List (Deed E.Effect)} :
    ¬Overruled (⟨thread, .attach (some surface), deeds, .ok⟩ :: older) := by
  rintro ⟨newer, last, rest, other, split, others, given, refused, held⟩
  rcases List.cons_eq_append_iff.mp split with ⟨rfl, same⟩ | ⟨newer, rfl, same⟩
  · obtain ⟨rfl, rfl⟩ := List.cons.inj same
    exact refused rfl
  · cases (List.forall_mem_cons.mp others).1

/-- While the engine holds a surface, it took the one given last if it was not overruled. -/
theorem tookLast_iff_not_overruled {calls : List (CallRecord E)} (held : holds calls = true) :
    TookLast calls ↔ ¬Overruled calls := by
  induction calls with
  | nil => cases held
  | cons record older ih =>
      cases attaches : record.call.isAttach with
      | false =>
          rw [tookLast_cons attaches, overruled_cons attaches]
          exact ih (holds_cons attaches ▸ held)
      | true =>
          obtain ⟨thread, call, deeds, outcome⟩ := record
          cases call with
          | prepare _ | render | input _ | finish => cases attaches
          | attach surface =>
              cases surface with
              | none => cases held
              | some surface =>
                  cases outcome with
                  | ok => exact iff_of_true ⟨surface, rfl⟩ not_overruled_of_taken
                  | failed _ | panicked _ =>
                      refine iff_of_false (fun ⟨_, last⟩ => nomatch last) (not_not_intro ?_)
                      exact ⟨[], _, older, surface, rfl, nofun, rfl, nofun, held⟩

end Calls

/-- The flag of the gate says whether the engine holds a surface. -/
theorem Handles.bound_iff {thread : Thread} {request : Request E.Surface} {s t : Session E H}
    (handles : Handles thread s request t) (sound : s.gate.Sound)
    (bound : s.gate.bound = true ↔ s.gate.phase ≠ .finished ∧ holds s.journal.calls = true) :
    t.gate.bound = true ↔ t.gate.phase ≠ .finished ∧ holds t.journal.calls = true := by
  cases handles with
  | refused _ | opened _ _ | closed => exact bound
  | unbound _ unprepared =>
      exact iff_of_false nofun fun held => unprepared (sound.bound (bound.mpr held))
  | called call outcome p makes admitted gate journal =>
      have calls : t.journal.calls = ⟨thread, call, p.deeds, outcome⟩ :: s.journal.calls := by
        rw [journal]
        rfl
      have alive := admitted.alive sound
      rw [gate, calls]
      cases call with
      | prepare size =>
          rw [holds_cons rfl]
          cases outcome with
          | ok => exact bound.trans (and_congr_left' (iff_of_true alive nofun))
          | failed _ | panicked _ => exact bound
      | attach surface =>
          cases surface with
          | none => exact iff_of_false nofun fun held => nomatch held.2
          | some surface =>
              cases outcome with
              | ok => exact iff_of_true rfl ⟨alive, rfl⟩
              | failed _ | panicked _ => exact bound
      | finish => exact iff_of_false nofun fun held => held.1 rfl
      | render | input _ =>
          rw [holds_cons rfl]
          exact bound

namespace Session

theorem bound_iff_askedAll (engine : E.State) (turns : List (Thread × Request E.Surface)) :
    let s := (new engine : Session E H).askedAll turns
    s.gate.bound = true ↔ s.gate.phase ≠ .finished ∧ holds s.journal.calls = true := by
  let Truthful (s : Session E H) : Prop :=
    s.gate.bound = true ↔ s.gate.phase ≠ .finished ∧ holds s.journal.calls = true
  have step (s : Session E H) (turn : Thread × Request E.Surface)
      (before : s.Settled ∧ Truthful s) : (s.asked turn).Settled ∧ Truthful (s.asked turn) :=
    have handles := Handles.of_asked s turn
    ⟨handles.settled before.1, handles.bound_iff before.1.sound before.2⟩
  have start : Truthful (new engine : Session E H) := iff_of_false nofun fun held => nomatch held.2
  exact (askedAll_induct step ⟨settled_new engine, start⟩ turns).2

/-- The gate can be opened, and lets frames and input through, only while the engine holds a surface.
This is the one that it was given last exactly if the engine did not fail to take another one on top. -/
theorem tookLast_iff_askedAll (engine : E.State) (turns : List (Thread × Request E.Surface)) :
    let s := (new engine : Session E H).askedAll turns
    (s.Opens → holds s.journal.calls = true ∧
      (TookLast s.journal.calls ↔ ¬Overruled s.journal.calls)) ∧
    ∀ record older, record :: older <:+ s.journal.calls → record.call.isServed = true →
      holds older = true ∧ (TookLast older ↔ ¬Overruled older) := by
  have told (turns : List (Thread × Request E.Surface))
      (bound : ((new engine : Session E H).askedAll turns).gate.bound = true) :
      let calls := ((new engine : Session E H).askedAll turns).journal.calls
      holds calls = true ∧ (TookLast calls ↔ ¬Overruled calls) :=
    have held := ((bound_iff_askedAll engine turns).mp bound).2
    ⟨held, tookLast_iff_not_overruled held⟩
  refine ⟨fun opens => told turns ((opens_iff _).mp opens).2, fun record older made served => ?_⟩
  rcases exists_request made with before | ⟨earlier, request, later, -, -, rfl, admitted⟩
  · cases List.suffix_nil.mp before
  · have settled := (settled_new engine : (new engine : Session E H).Settled).askedAll earlier
    exact told earlier (settled.sound.ready (admitted.ready served)).2

/-- The engine panics at the first surface and takes the second, in which a worker then draws. -/
theorem tookLast_panicked_first :
    let script : Script := ⟨none, [], [.panicked .other, .ok], [], [], .ok, none⟩
    let turns : List (Thread × Request Nat) :=
      [(.host, .prepare (.ofRead fun path => .error (.of path)) ⟨800, 600⟩),
        (.host, .attach (some 1)), (.host, .attach (some 2)), (.host, .allow),
        (.worker "w-1", .render)]
    let s : Session Script.engine Unit := (new script).askedAll turns
    s.Opens ∧ TookLast s.journal.calls ∧ ¬Overruled s.journal.calls ∧
      ⟨.worker "w-1", .render, [], .ok⟩ :: s.journal.calls.tail <:+ s.journal.calls ∧
      TookLast s.journal.calls.tail ∧ ¬Overruled s.journal.calls.tail := by
  intro script turns s
  have opens : s.Opens := (opens_iff s).mpr (by decide +kernel)
  have calls : s.journal.calls =
      [⟨.worker "w-1", .render, [], .ok⟩, ⟨.host, .attach (some (2 : Nat)), [], .ok⟩,
        ⟨.host, .attach (some (1 : Nat)), [], .panicked .other⟩,
        ⟨.host, .prepare ⟨800, 600⟩, [], .ok⟩] := rfl
  have took : TookLast s.journal.calls := by
    rw [calls]
    exact ⟨(2 : Nat), rfl⟩
  have drawn : ⟨.worker "w-1", .render, [], .ok⟩ :: s.journal.calls.tail <:+ s.journal.calls := by
    rw [calls]
    exact List.suffix_rfl
  have before : TookLast s.journal.calls.tail := by
    rw [calls]
    exact ⟨(2 : Nat), rfl⟩
  have told := tookLast_iff_askedAll (E := Script.engine) (H := Unit) script turns
  exact ⟨opens, took, (told.1 opens).2.mp took, drawn, before, (told.2 _ _ drawn rfl).2.mp before⟩

/-- The engine fails to take a second surface on top of the first. The gate can still be opened, and a
frame reaches the engine. -/
theorem opens_overruled :
    let script : Script := ⟨none, [], [.ok, .failed (.of "lost")], [], [], .ok, none⟩
    let turns : List (Thread × Request Nat) :=
      [(.host, .prepare (.ofRead fun path => .error (.of path)) ⟨800, 600⟩),
        (.host, .attach (some 1)), (.host, .attach (some 2))]
    let s : Session Script.engine Unit := (new script).askedAll turns
    s.Opens ∧
      latest Call.isAttach s.journal.calls = some (.attach (some (2 : Nat)), .failed (.of "lost")) ∧
      (s.askedAll [(.host, .allow), (.host, .render)]).journal.calls =
        ⟨.host, .render, [], .ok⟩ :: s.journal.calls := by
  intro script turns s
  exact ⟨(opens_iff s).mpr (by decide +kernel), rfl, rfl⟩

end Session
end SurfaceGate
