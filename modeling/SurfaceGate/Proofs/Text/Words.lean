import Mathlib.Data.List.Basic
import Mathlib.Data.List.TakeWhile
import SurfaceGate.Text.Blank

/-!
What trimming leaves, and which words a text has.

Both are told by how the text is put together. A text is trimmed to what is left between blanks and has no
blank at its ends; its words are runs without a blank, with a blank between two of them.
-/

namespace SurfaceGate.Text

/-- Nothing but blanks. -/
def Gap (cs : List Char) : Prop :=
  ∀ c ∈ cs, isBlank c = true

/-- Not a single blank. -/
def Solid (cs : List Char) : Prop :=
  ∀ c ∈ cs, isBlank c = false

/-- `core` is what stands between the blanks around it. -/
structure Trims (cs core : List Char) : Prop where
  around : ∃ before after, cs = before ++ core ++ after ∧ Gap before ∧ Gap after
  first : ∀ c ∈ core.head?, isBlank c = false
  last : ∀ c ∈ core.getLast?, isBlank c = false

/-- A text of these words, one after the other, with blanks between them and perhaps around. -/
inductive Worded : List Char → List (List Char) → Prop where
  | gap {blanks : List Char} (blank : Gap blanks) : Worded blanks []
  | word {blanks word rest : List Char} {words : List (List Char)} (blank : Gap blanks)
      (nonempty : word ≠ []) (solid : Solid word) (apart : ∀ c ∈ rest.head?, isBlank c = true)
      (others : Worded rest words) : Worded (blanks ++ word ++ rest) (word :: words)

section Trimming

variable {cs core blanks : List Char}

theorem gap_takeWhile (cs : List Char) : Gap (cs.takeWhile isBlank) :=
  fun _ => List.mem_takeWhile_imp

theorem dropWhile_eq_self (first : ∀ c ∈ cs.head?, isBlank c = false) : cs.dropWhile isBlank = cs := by
  cases cs with
  | nil => rfl
  | cons c rest => exact List.dropWhile_cons_of_neg (by simp [first c rfl])

theorem head?_dropWhile (cs : List Char) : ∀ c ∈ (cs.dropWhile isBlank).head?, isBlank c = false := by
  intro c head
  have stops := List.head?_dropWhile_not isBlank cs
  rw [Option.mem_def.mp head] at stops
  exact stops

theorem Gap.reverse (blank : Gap blanks) : Gap blanks.reverse :=
  fun c member => blank c (List.mem_reverse.mp member)

/-- What comes behind a text matters only if there is no text. -/
theorem dropWhile_append_eq_self (first : ∀ c ∈ cs.head?, isBlank c = false) (nonempty : cs ≠ [])
    (behind : List Char) : (cs ++ behind).dropWhile isBlank = cs ++ behind := by
  refine dropWhile_eq_self ?_
  rw [List.head?_append_of_ne_nil _ nonempty]
  exact first

theorem trimmed_of_gap (blank : Gap cs) : trimmed cs = [] := by
  rw [trimmed, List.dropWhile_eq_nil_iff.mpr blank]
  rfl

theorem Trims.trimmed_eq (trims : Trims cs core) : trimmed cs = core := by
  obtain ⟨before, after, rfl, blank, blank'⟩ := trims.around
  by_cases empty : core = []
  · subst empty
    refine trimmed_of_gap fun c member => ?_
    rw [List.append_nil] at member
    exact (List.mem_append.mp member).elim (blank c) (blank' c)
  · have reversed : ∀ c ∈ core.reverse.head?, isBlank c = false := by
      rw [List.head?_reverse]
      exact trims.last
    rw [trimmed, List.append_assoc, List.dropWhile_append_of_pos blank,
      dropWhile_append_eq_self trims.first empty, List.reverse_append,
      List.dropWhile_append_of_pos blank'.reverse, dropWhile_eq_self reversed, List.reverse_reverse]

/-- What is taken away behind the text. -/
theorem trimmed_append (cs : List Char) :
    trimmed cs ++ ((cs.dropWhile isBlank).reverse.takeWhile isBlank).reverse = cs.dropWhile isBlank := by
  rw [trimmed, ← List.reverse_append, List.takeWhile_append_dropWhile, List.reverse_reverse]

theorem trims_trimmed (cs : List Char) : Trims cs (trimmed cs) where
  around := by
    refine ⟨cs.takeWhile isBlank, ((cs.dropWhile isBlank).reverse.takeWhile isBlank).reverse, ?_,
      gap_takeWhile cs, (gap_takeWhile _).reverse⟩
    rw [List.append_assoc, trimmed_append, List.takeWhile_append_dropWhile]
  first c head := by
    refine head?_dropWhile cs c ?_
    rw [← trimmed_append, List.head?_append, Option.mem_def.mp head]
    rfl
  last c last := by
    rw [trimmed, List.getLast?_reverse] at last
    exact head?_dropWhile _ c last

theorem trimmed_eq_iff : trimmed cs = core ↔ Trims cs core :=
  ⟨fun same => same ▸ trims_trimmed cs, Trims.trimmed_eq⟩

end Trimming

section Words

variable {cs word blanks : List Char} {ws : List (List Char)}

/-- A blank in front of a text does not count. -/
theorem Worded.blank (worded : Worded cs ws) {c : Char} (blank : isBlank c = true) : Worded (c :: cs) ws := by
  cases worded with
  | gap blanks => exact .gap (List.forall_mem_cons.mpr ⟨blank, blanks⟩)
  | word blanks nonempty solid apart others =>
      exact .word (List.forall_mem_cons.mpr ⟨blank, blanks⟩) nonempty solid apart others

/-- A word in front of a blank, or of nothing, is the first word. -/
theorem Worded.cons (worded : Worded cs ws) (nonempty : word ≠ []) (solid : Solid word)
    (apart : ∀ c ∈ cs.head?, isBlank c = true) : Worded (word ++ cs) (word :: ws) :=
  @Worded.word [] _ _ _ nofun nonempty solid apart worded

theorem Solid.cons {c : Char} (solid : Solid word) (other : isBlank c = false) : Solid (c :: word) :=
  List.forall_mem_cons.mpr ⟨other, solid⟩

theorem Solid.reverse (solid : Solid word) : Solid word.reverse :=
  fun c member => solid c (List.mem_reverse.mp member)

theorem worded_wordsAfter (solid : Solid word) (cs : List Char) :
    Worded (word.reverse ++ cs) (wordsAfter word cs) := by
  induction cs generalizing word with
  | nil =>
      by_cases empty : word = []
      · subst empty
        exact .gap nofun
      · simp only [wordsAfter, List.isEmpty_iff, empty, if_false]
        exact .cons (.gap nofun) (by simp [empty]) solid.reverse nofun
  | cons c rest ih =>
      have alone : Worded rest (wordsAfter [] rest) := @ih [] nofun
      by_cases blank : isBlank c = true
      · simp only [wordsAfter, blank, if_true, List.isEmpty_iff]
        by_cases empty : word = []
        · subst empty
          exact alone.blank blank
        · rw [if_neg empty]
          refine .cons (alone.blank blank) (by simp [empty]) solid.reverse ?_
          rintro _ ⟨⟩
          exact blank
      · have longer := ih (solid.cons (eq_false_of_ne_true blank))
        simpa [wordsAfter, blank] using longer

theorem wordsAfter_gap (blank : Gap blanks) (cs : List Char) :
    wordsAfter [] (blanks ++ cs) = wordsAfter [] cs := by
  induction blanks with
  | nil => rfl
  | cons c rest ih =>
      obtain ⟨first, others⟩ := List.forall_mem_cons.mp blank
      simp [wordsAfter, first, ih others]

theorem wordsAfter_solid (solid : Solid word) (begun cs : List Char) :
    wordsAfter begun (word ++ cs) = wordsAfter (word.reverse ++ begun) cs := by
  induction word generalizing begun with
  | nil => rfl
  | cons c rest ih =>
      obtain ⟨first, others⟩ := List.forall_mem_cons.mp solid
      simp [wordsAfter, first, ih others]

/-- A blank, or the end, completes the word that is begun. -/
theorem wordsAfter_complete {begun : List Char} (nonempty : begun ≠ [])
    (apart : ∀ c ∈ cs.head?, isBlank c = true) : wordsAfter begun cs = begun.reverse :: wordsAfter [] cs := by
  cases cs with
  | nil => simp [wordsAfter, nonempty]
  | cons c rest => simp [wordsAfter, apart c rfl, nonempty]

theorem Worded.words_eq (worded : Worded cs ws) : words cs = ws := by
  induction worded with
  | gap blank =>
      have skipped := wordsAfter_gap blank []
      rwa [List.append_nil] at skipped
  | @word blanks word rest ws blank nonempty solid apart _ ih =>
      rw [words, List.append_assoc, wordsAfter_gap blank, wordsAfter_solid solid, List.append_nil,
        wordsAfter_complete (by simp [nonempty]) apart, List.reverse_reverse]
      exact congrArg (word :: ·) ih

theorem words_eq_iff : words cs = ws ↔ Worded cs ws :=
  ⟨fun same => same ▸ @worded_wordsAfter [] nofun cs, Worded.words_eq⟩

end Words

end SurfaceGate.Text
