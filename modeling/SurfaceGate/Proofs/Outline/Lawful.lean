import SurfaceGate.Proofs.Outline.History

/-!
The law of histories.

Each mark has to be permitted by the history before it. The engine is prepared, given a surface and
finished only while the gate is closed and no worker is left; the gate is opened only for a surface
that the engine took behind its last preparation; a worker is started only when all earlier ones are
joined. What an open gate stands for follows by induction on the history, and is no part of the law.
-/

namespace SurfaceGate.History

variable {S : Type}

/-- The engine's last lifecycle calls: a preparation, and then a surface that it took. -/
def Bound (surface : S) (size : Extent) (h : History S) : Prop :=
  ∃ earlier, lifecycle h = (.attach (some surface), .ok) :: (.prepare size, .ok) :: earlier

structure Quiet (h : History S) : Prop where
  closed : isOpen h = false
  joined : unjoined h = []

/-- The engine is ready for frames and input. -/
structure Served (h : History S) : Prop where
  bound : ∃ surface size, Bound surface size h
  prepared : Prepared h
  unfinished : ¬Finished h

def Permits (h : History S) : Mark S → Prop
  | .call (.prepare _) _ => Quiet h ∧ ¬Finished h
  | .call (.attach _) _ => Quiet h ∧ Prepared h ∧ ¬Finished h
  | .call .finish _ => Quiet h ∧ Prepared h ∧ ¬Finished h
  | .call (.input _) _ => isOpen h = true
  | .call .render _ => False
  | .readiness true => Served h
  | .readiness false => True
  | .moved before after => before.allows after = true
  | .started cycle =>
      isOpen h = true ∧ unjoined h = [] ∧ ∀ earlier, .started earlier ∈ h → earlier < cycle
  | .joined cycle => isOpen h = false ∧ unjoined h = [cycle]

def Lawful : History S → Prop
  | [] => True
  | mark :: older => Permits older mark ∧ Lawful older

theorem lawful_of_suffix {older newer : History S} (hs : older <:+ newer) (h : Lawful newer) :
    Lawful older := by
  induction newer with
  | nil => rwa [List.suffix_nil.mp hs]
  | cons mark rest ih =>
      rcases List.suffix_cons_iff.mp hs with rfl | hs
      · exact h
      · exact ih hs h.2

/-- A worker that is not joined, where none was left before, was started since. -/
theorem started_of_unjoined {older more : History S} (joined : unjoined older = [])
    (left : unjoined (more ++ older) ≠ []) : ∃ cycle, .started cycle ∈ more := by
  induction more with
  | nil => exact absurd joined left
  | cons mark rest ih =>
      cases mark with
      | started cycle => exact ⟨cycle, List.mem_cons_self⟩
      | joined cycle =>
          have before := ih fun none => left (congrArg (·.erase cycle) none)
          exact before.imp fun _ => List.mem_cons_of_mem _
      | call _ _ | readiness _ | moved _ _ => exact (ih left).imp fun _ => List.mem_cons_of_mem _

theorem started_of_mem_unjoined {h : History S} {cycle : Nat} (left : cycle ∈ unjoined h) :
    .started cycle ∈ h := by
  induction h with
  | nil => cases left
  | cons mark older ih =>
      cases mark with
      | started other =>
          rcases List.mem_cons.mp left with rfl | before
          · exact List.mem_cons_self
          · exact List.mem_cons_of_mem _ (ih before)
      | joined other => exact List.mem_cons_of_mem _ (ih (List.mem_of_mem_erase left))
      | call _ _ | readiness _ | moved _ _ => exact List.mem_cons_of_mem _ (ih left)

theorem prepared_cons {h : History S} (mark : Mark S) (prepared : Prepared h) :
    Prepared (mark :: h) :=
  prepared.imp fun _ => List.mem_cons_of_mem mark

theorem finished_cons {h : History S} {mark : Mark S}
    (other : ∀ outcome, mark ≠ .call .finish outcome) : Finished (mark :: h) ↔ Finished h := by
  constructor
  · rintro ⟨outcome, made⟩
    rcases List.mem_cons.mp made with here | before
    · exact absurd here.symm (other outcome)
    · exact ⟨outcome, before⟩
  · exact Exists.imp fun _ => List.mem_cons_of_mem mark

theorem prepared_cons_iff {h : History S} {mark : Mark S}
    (other : ∀ size, mark ≠ .call (.prepare size) .ok) : Prepared (mark :: h) ↔ Prepared h := by
  constructor
  · rintro ⟨size, made⟩
    rcases List.mem_cons.mp made with here | before
    · exact absurd here.symm (other size)
    · exact ⟨size, before⟩
  · exact prepared_cons mark

theorem taken_cons {h : History S} {mark : Mark S}
    (other : ∀ surface, mark ≠ .call (.attach (some surface)) .ok) :
    taken (mark :: h) = taken h := by
  rw [taken]
  exact other

/-- What is no lifecycle call takes nothing away. -/
theorem Served.cons {h : History S} {mark : Mark S} (served : Served h)
    (other : ∀ call outcome, mark = .call call outcome → call.isLifecycle = false) :
    Served (mark :: h) := by
  have same : lifecycle (mark :: h) = lifecycle h := by
    cases mark with
    | call call outcome => simp [lifecycle, other call outcome rfl]
    | readiness _ | moved _ _ | started _ | joined _ => rfl
  refine ⟨?_, prepared_cons mark served.prepared, ?_⟩
  · obtain ⟨surface, size, earlier, last⟩ := served.bound
    exact ⟨surface, size, earlier, same.trans last⟩
  · rw [finished_cons]
    · exact served.unfinished
    · rintro outcome rfl
      exact absurd (other .finish outcome rfl) (by simp [Call.isLifecycle])

/-- What an open gate stands for. -/
theorem served_of_open {h : History S} (lawful : Lawful h) (ready : isOpen h = true) :
    Served h := by
  -- Behind the mark that opened the gate the law keeps every lifecycle call away.
  induction h with
  | nil => cases ready
  | cons mark older ih =>
      obtain ⟨permitted, lawful⟩ := lawful
      cases mark with
      | call call outcome =>
          have before : isOpen older = true := ready
          cases call with
          | prepare _ | attach _ | finish =>
              have closed := permitted.1.closed
              rw [before] at closed
              cases closed
          | render => exact permitted.elim
          | input event =>
              refine (ih lawful before).cons ?_
              rintro _ _ ⟨⟩
              rfl
      | readiness opened =>
          obtain rfl : opened = true := ready
          exact Served.cons permitted (by rintro _ _ ⟨⟩)
      | moved _ _ | started _ | joined _ => exact (ih lawful ready).cons (by rintro _ _ ⟨⟩)

end SurfaceGate.History
