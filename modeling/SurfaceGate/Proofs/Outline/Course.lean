import SurfaceGate.Error
import SurfaceGate.Proofs.Outline.History

/-!
The courses that the begin of a bind cycle can take.

The engine is prepared, it is given the surface, and the worker is started. The first of these steps that
fails decides what is answered and what the engine is called for; nothing of the past does, apart from
whether the engine was ever prepared, since one that was not has no surface to take back.
-/

namespace SurfaceGate

/-- How the begin of a cycle goes. -/
inductive Course where
  | unprepared (why : Failure)
  | ungiven (why : Failure)
  | unstarted
  | up

section Calls

variable {S : Type}

/-- Whether some preparation succeeded. -/
def everPrepared (calls : List (Call S × Outcome)) : Bool :=
  calls.any fun
    | (.prepare _, .ok) => true
    | _ => false

/-- How often the engine took a surface. -/
def timesTaken : List (Call S × Outcome) → Nat
  | [] => 0
  | (.attach (some _), .ok) :: older => timesTaken older + 1
  | _ :: older => timesTaken older

/-- Calls of the host, and then the one that takes the surface back. An engine that was never prepared
has none. -/
def takenBack (taken : Outcome) (calls : List (Call S × Outcome)) : List (Call S × Outcome) :=
  if everPrepared calls then (.attach none, taken) :: calls else calls

end Calls

namespace Course

variable {S : Type}

def answer : Course → Except GateError Unit
  | .unprepared why => .error (.prepare why)
  | .ungiven why => .error (.attach why)
  | .unstarted => .error (.workerStart .tryAgain)
  | .up => .ok ()

theorem exists_error {course : Course} (other : course ≠ .up) : ∃ error, course.answer = .error error := by
  cases course with
  | unprepared _ | ungiven _ | unstarted => exact ⟨_, rfl⟩
  | up => exact absurd rfl other

/-- The host's calls up to the end of the course, with those before it; newest first. How the surface is
taken back does not matter. -/
def calls (size : Extent) (surface : S) (taken : Outcome) (before : List (Call S × Outcome)) :
    Course → List (Call S × Outcome)
  | .unprepared why =>
      if everPrepared before then (.attach none, taken) :: (.prepare size, .failed why) :: before
      else (.prepare size, .failed why) :: before
  | .ungiven why =>
      (.attach none, taken) :: (.attach (some surface), .failed why) :: (.prepare size, .ok) :: before
  | .unstarted =>
      (.attach none, taken) :: (.attach (some surface), .ok) :: (.prepare size, .ok) :: before
  | .up => (.attach (some surface), .ok) :: (.prepare size, .ok) :: before

/-- The cycles that it counts: a surface that the engine took. -/
def cycles : Course → Nat
  | .unprepared _ | .ungiven _ => 0
  | .unstarted | .up => 1

theorem timesTaken_calls (course : Course) (size : Extent) (surface : S) (taken : Outcome)
    (before : List (Call S × Outcome)) :
    timesTaken (course.calls size surface taken before) = timesTaken before + course.cycles := by
  cases course with
  | unprepared why =>
      simp only [calls]
      split
      · rfl
      · rfl
  | ungiven _ | unstarted | up => rfl

end Course

namespace History

variable {S : Type}

/-- Newest first. -/
def calls (h : History S) : List (Call S × Outcome) :=
  h.filterMap fun
    | .call call outcome => some (call, outcome)
    | _ => none

theorem calls_suffix {older newer : History S} (hs : older <:+ newer) :
    older.calls <:+ newer.calls :=
  hs.filterMap _

theorem lifecycle_eq (h : History S) :
    lifecycle h = h.calls.filter fun call => call.1.isLifecycle := by
  induction h with
  | nil => rfl
  | cons mark older ih =>
      cases mark with
      | call call outcome =>
          cases call with
          | prepare _ | attach _ | finish => exact congrArg (_ :: ·) ih
          | render | input _ => exact ih
      | readiness _ | moved _ _ | started _ | joined _ => exact ih

theorem mem_calls {h : History S} {call : Call S} {outcome : Outcome} :
    (call, outcome) ∈ h.calls ↔ .call call outcome ∈ h := by
  constructor
  · intro made
    obtain ⟨mark, here, same⟩ := List.mem_filterMap.mp made
    cases mark with
    | call _ _ =>
        cases same
        exact here
    | readiness _ | moved _ _ | started _ | joined _ => cases same
  · exact fun made => List.mem_filterMap.mpr ⟨_, made, rfl⟩

theorem prepared_iff_ever (h : History S) : Prepared h ↔ everPrepared h.calls = true := by
  rw [everPrepared, List.any_eq_true]
  constructor
  · exact fun ⟨size, made⟩ => ⟨_, mem_calls.mpr made, rfl⟩
  · rintro ⟨⟨call, outcome⟩, made, ok⟩
    cases call with
    | prepare size =>
        cases outcome with
        | ok => exact ⟨size, mem_calls.mp made⟩
        | failed _ | panicked _ => cases ok
    | attach _ | render | input _ | finish => cases ok

theorem taken_eq (h : History S) : taken h = timesTaken h.calls := by
  induction h with
  | nil => rfl
  | cons mark older ih =>
      cases mark with
      | call call outcome =>
          cases call with
          | attach surface =>
              cases surface with
              | none => exact ih
              | some surface =>
                  cases outcome with
                  | ok => exact congrArg (· + 1) ih
                  | failed _ | panicked _ => exact ih
          | prepare _ | render | input _ | finish => exact ih
      | readiness _ | moved _ _ | started _ | joined _ => exact ih

end History
end SurfaceGate
