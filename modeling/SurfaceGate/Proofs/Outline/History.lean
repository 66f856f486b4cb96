import SurfaceGate.Worker.Loop

/-!
The history of a session: its journal without what the workers write.

Lines and frames are left out, and of the end of a worker only the join is kept. What is left are the
calls of the host, with their outcomes, and the marks that the controller sets. Like the journal, a
history is kept newest first.
-/

namespace SurfaceGate

/-- An entry of the journal in which the workers have no part. -/
inductive Mark (S : Type) where
  | call (call : Call S) (outcome : Outcome)
  | readiness (ready : Bool)
  | moved (before after : Stage)
  | started (cycle : Nat)
  | joined (cycle : Nat)

/-- Newest first. -/
abbrev History (S : Type) := List (Mark S)

/-- The calls that begin and end the life of an engine with a surface. -/
def Call.isLifecycle {S : Type} : Call S → Bool
  | .prepare _ | .attach _ | .finish => true
  | .render | .input _ => false

def Call.isServed {S : Type} (call : Call S) : Bool :=
  !call.isLifecycle

/-- Whether a worker is started, or something comes through an open gate. -/
def Mark.serves {S : Type} : Mark S → Bool
  | .started _ => true
  | .call made _ => made.isServed
  | _ => false

/-- The calls whose outcome the engine decides, frames apart. -/
inductive Demand where
  | prepare
  | give
  | takeBack
  deriving DecidableEq, Repr

def Call.demand? {S : Type} : Call S → Option Demand
  | .prepare _ => some .prepare
  | .attach (some _) => some .give
  | .attach none => some .takeBack
  | .render | .input _ | .finish => none

section Journals

variable {E : Engine} {H : Type}

def Entry.mark? : Entry E H → Option (Mark E.Surface)
  | .call ⟨_, .render, _, _⟩ => none
  | .call ⟨_, asked, _, outcome⟩ => some (.call asked outcome)
  | .readiness ready => some (.readiness ready)
  | .moved before after => some (.moved before after)
  | .started cycle => some (.started cycle)
  | .joined cycle _ => some (.joined cycle)
  | .line _ _ | .host _ => none

def Entry.call? : Entry E H → Option (CallRecord E)
  | .call record => some record
  | _ => none

def Journal.history (journal : Journal E H) : History E.Surface :=
  journal.filterMap Entry.mark?

/-- The calls that reached the engine, newest first. -/
def Journal.calls (journal : Journal E H) : List (CallRecord E) :=
  journal.filterMap Entry.call?

/-- How the calls of one kind came out, oldest first. -/
def Journal.outcomes (d : Demand) (journal : Journal E H) : List Outcome :=
  journal.calls.reverse.filterMap fun record =>
    if record.call.demand? = some d then some record.outcome else none

theorem Journal.suffix_history {older newer : Journal E H} (hs : older <:+ newer) :
    older.history <:+ newer.history := by
  obtain ⟨more, rfl⟩ := hs
  exact ⟨Journal.history more, List.filterMap_append.symm⟩

def Entry.isFrame : Entry E H → Prop
  | .call record => record.call = .render
  | _ => False

end Journals

namespace History

variable {S : Type}

def isOpen : History S → Bool
  | [] => false
  | .readiness ready :: _ => ready
  | _ :: older => isOpen older

/-- The workers that were started and are not joined, by their cycles. -/
def unjoined : History S → List Nat
  | [] => []
  | .started cycle :: older => cycle :: unjoined older
  | .joined cycle :: older => (unjoined older).erase cycle
  | _ :: older => unjoined older

def lifecycle : History S → List (Call S × Outcome)
  | [] => []
  | .call call outcome :: older =>
      if call.isLifecycle then (call, outcome) :: lifecycle older else lifecycle older
  | _ :: older => lifecycle older

def Prepared (h : History S) : Prop :=
  ∃ size, Mark.call (.prepare size) .ok ∈ h

def Finished (h : History S) : Prop :=
  ∃ outcome, Mark.call .finish outcome ∈ h

def taken : History S → Nat
  | [] => 0
  | .call (.attach (some _)) .ok :: older => taken older + 1
  | _ :: older => taken older

def outcomes (d : Demand) : History S → List Outcome
  | [] => []
  | .call call outcome :: older =>
      if call.demand? = some d then outcome :: outcomes d older else outcomes d older
  | _ :: older => outcomes d older

end History

/-- The outcomes of successive calls, for each kind of them. -/
abbrev Plan := Demand → Nat → Outcome

namespace Plan

variable {S : Type}

def answer (plan : Plan) (h : History S) (call : Call S) : Outcome :=
  match call.demand? with
  | some d => plan d (h.outcomes d).length
  | none => .ok

def Explains (plan : Plan) : History S → Prop
  | [] => True
  | .call call outcome :: older =>
      (call.demand?.isSome → outcome = plan.answer older call) ∧ Explains plan older
  | _ :: older => Explains plan older

def ofHistory (h : History S) : Plan := fun d n =>
  ((h.outcomes d).reverse[n]?).getD .ok

theorem explains_of_suffix {plan : Plan} {older newer : History S} (hs : older <:+ newer)
    (h : plan.Explains newer) : plan.Explains older := by
  induction newer with
  | nil => rwa [List.suffix_nil.mp hs]
  | cons mark rest ih =>
      rcases List.suffix_cons_iff.mp hs with rfl | hs
      · exact h
      · apply ih hs
        cases mark with
        | call _ _ => exact h.2
        | readiness _ | moved _ _ | started _ | joined _ => exact h

/-- A plan that lists the outcomes of a history explains it. -/
theorem explains_of_outcomes {plan : Plan} (h : History S)
    (lists : ∀ d n outcome, (h.outcomes d).reverse[n]? = some outcome → plan d n = outcome) :
    plan.Explains h := by
  induction h with
  | nil => trivial
  | cons mark older ih =>
      cases mark with
      | call call outcome =>
          refine ⟨?_, ih fun d n o ho => lists d n o ?_⟩
          · intro demanded
            obtain ⟨d, hd⟩ := Option.isSome_iff_exists.mp demanded
            have last := lists d (History.outcomes d older).length outcome
              (by simp [History.outcomes, hd])
            simp [answer, hd, last]
          · by_cases hd : call.demand? = some d
            · have hn : n < (History.outcomes d older).reverse.length :=
                (List.getElem?_eq_some_iff.mp ho).1
              simpa [History.outcomes, hd, List.getElem?_append_left hn] using ho
            · simpa [History.outcomes, hd] using ho
      | readiness _ | moved _ _ | started _ | joined _ => exact ih lists

theorem ofHistory_explains (h : History S) : (ofHistory h).Explains h :=
  explains_of_outcomes h fun d n outcome ho => by simp [ofHistory, ho]

end Plan
end SurfaceGate
