import SurfaceGate.Text.Terminal

/-!
What is left of a text without its control functions.

Nothing is added, and all that is left can be shown. Text that can be shown is left as it is, up to the first
character that cannot, so taking control functions out a second time changes nothing.
-/

namespace SurfaceGate.Text

/-- Every character of the text can be shown. -/
def Shown (s : String) : Prop :=
  ∀ c ∈ s.toList, isShown c = true

theorem Shown.append {s t : String} (hs : Shown s) (ht : Shown t) : Shown (s ++ t) := by
  simp only [Shown, String.toList_append, List.forall_mem_append]
  exact ⟨hs, ht⟩

theorem shown_join {texts : List String} (shown : ∀ s ∈ texts, Shown s) : Shown (String.join texts) := by
  induction texts with
  | nil => exact nofun
  | cons s texts ih =>
      rw [String.join_cons]
      exact (shown s List.mem_cons_self).append (ih fun t mem => shown t (List.mem_cons_of_mem _ mem))

namespace Reading

variable {r : Reading} {cs : List Char}

theorem isShown_of_keeps {c : Char} (keeps : r.keeps c = true) : isShown c = true :=
  (Bool.and_eq_true_iff.mp keeps).1

theorem kept_sublist (r : Reading) (cs : List Char) : (r.kept cs).Sublist cs := by
  induction cs generalizing r with
  | nil => exact List.Sublist.slnil
  | cons c cs ih =>
      rw [kept]
      split
      · exact (ih _).cons_cons c
      · exact (ih _).cons c

theorem isShown_of_mem_kept {c : Char} (mem : c ∈ r.kept cs) : isShown c = true := by
  induction cs generalizing r with
  | nil => cases mem
  | cons d cs ih =>
      rw [kept] at mem
      split at mem
      · rename_i keeps
        rcases List.mem_cons.mp mem with rfl | later
        · exact isShown_of_keeps keeps
        · exact ih later
      · exact ih mem

/-- Where nothing has begun, whether the reading is under way is no matter. -/
theorem kept_of_text (text : r.begun = .text) : r.kept cs = start.kept cs := by
  obtain ⟨begun, running⟩ := r
  cases text
  cases cs with
  | nil => rfl
  | cons c cs =>
      have same : keeps ⟨.text, running⟩ c = start.keeps c := by simp [keeps, Begun.admits, start]
      simp only [kept, next, same]
      rfl

theorem kept_append_of_shown {shown : List Char} (can : ∀ c ∈ shown, isShown c = true) :
    start.kept (shown ++ cs) = shown ++ start.kept cs := by
  induction shown with
  | nil => rfl
  | cons c shown ih =>
      obtain ⟨first, later⟩ := List.forall_mem_cons.mp can
      have keeps : start.keeps c = true := by simp [Reading.keeps, Begun.admits, start, first]
      have still : (start.next c).begun = .text := by
        rw [next, if_pos keeps]
        simp [start]
      simp only [List.cons_append, kept, keeps, if_true]
      rw [kept_of_text still, ih later]

end Reading

theorem readable_sublist (s : String) : (readable s).toList.Sublist s.toList := by
  rw [readable, String.toList_ofList]
  exact Reading.kept_sublist _ _

theorem shown_readable (s : String) : Shown (readable s) := by
  intro c mem
  rw [readable, String.toList_ofList] at mem
  exact Reading.isShown_of_mem_kept mem

theorem readable_append_of_shown {s : String} (shown : Shown s) (t : String) :
    readable (s ++ t) = s ++ readable t := by
  rw [readable, String.toList_append, Reading.kept_append_of_shown shown, String.ofList_append,
    String.ofList_toList]
  rfl

theorem readable_of_shown {s : String} (shown : Shown s) : readable s = s := by
  have empty : readable "" = "" := rfl
  have whole := readable_append_of_shown shown ""
  rwa [empty, String.append_empty] at whole

theorem readable_readable (s : String) : readable (readable s) = readable s :=
  readable_of_shown (shown_readable s)

end SurfaceGate.Text
