import SurfaceGate.Clear.Color
import SurfaceGate.Proofs.Decimal.Literal
import SurfaceGate.Proofs.Decimal.Order
import SurfaceGate.Proofs.Text.Words

/-!
What base colours there are.

A base colour is read from just the texts of three words that are literals. A component is in the range from
zero to one unless its word says that it is no number, for this passes through the clamp.
-/

namespace SurfaceGate.Clear

open SurfaceGate.Decimal SurfaceGate.Text

/-- The bytes are a text of these words. -/
def Spelled (bytes : ByteArray) (words : List (List Char)) : Prop :=
  ∃ text : String, text.toUTF8 = bytes ∧ Worded text.toList words

def Gives (word : List Char) (x : Float) : Prop :=
  ∃ literal, readLiteral word = some literal ∧ literal.toFloat = x

/-- What is left of the word's number is in range, or else the word says that there is no number. -/
structure Clamped (word : List Char) (x : Float) : Prop where
  ranged : 0.0 ≤ x ∧ x ≤ 1.0 ↔ ¬ IsNaN word
  absent : x.isNaN = true ↔ IsNaN word

section Components

variable {word : List Char} {x : Float}

theorem clampUnit_mem (number : x.isNaN = false) : 0.0 ≤ clampUnit x ∧ clampUnit x ≤ 1.0 := by
  unfold clampUnit
  split
  · decide +kernel
  · next below =>
      split
      · decide +kernel
      · next above =>
          exact ⟨le_of_not_lt number (by decide +kernel) below, le_of_not_lt (by decide +kernel) number above⟩

theorem clampUnit_of_isNaN (absent : x.isNaN = true) : clampUnit x = x := by
  have unordered (y : Float) (below : x < y ∨ y < x) : x.isNaN = false :=
    below.elim (fun below => (isNaN_eq_false_of_lt below).1) (fun above => (isNaN_eq_false_of_lt above).2)
  have neither (y : Float) (below : x < y ∨ y < x) : False :=
    Bool.false_ne_true ((unordered y below).symm.trans absent)
  rw [clampUnit, if_neg fun below => neither _ (.inl below), if_neg fun above => neither _ (.inr above)]

theorem gives_isNaN_iff (gives : Gives word x) : x.isNaN = true ↔ IsNaN word := by
  obtain ⟨literal, read, rfl⟩ := gives
  rw [literal.toFloat_isNaN_iff]
  constructor
  · intro ⟨negative, same⟩
    exact isNaN_of_read (same ▸ read)
  · intro word
    obtain ⟨negative, named⟩ := word.read
    exact ⟨negative, Option.some.inj (read.symm.trans named)⟩

theorem Gives.clamped (gives : Gives word x) : Clamped word (clampUnit x) := by
  have absent := gives_isNaN_iff gives
  by_cases number : x.isNaN = true
  · have word := absent.mp number
    rw [clampUnit_of_isNaN number]
    have unranged (ranged : 0.0 ≤ x ∧ x ≤ 1.0) : False :=
      Bool.false_ne_true ((isNaN_eq_false_of_le ranged.1).2.symm.trans number)
    exact ⟨iff_of_false unranged (not_not_intro word), absent⟩
  · have word := mt absent.mpr number
    have ranged := clampUnit_mem (eq_false_of_ne_true number)
    have left := Bool.eq_false_iff.mp (isNaN_eq_false_of_le ranged.1).2
    exact ⟨iff_of_true ranged word, iff_of_false left word⟩

end Components

section Reading

variable {bytes : ByteArray}

theorem fromUTF8?_eq_some_iff {text : String} : String.fromUTF8? bytes = some text ↔ text.toUTF8 = bytes := by
  unfold String.fromUTF8?
  split
  · next valid =>
      rw [Option.some.injEq, ← String.toByteArray_inj]
      exact eq_comm
  · next invalid =>
      refine iff_of_false nofun fun same => invalid ?_
      rw [← same]
      exact text.isValidUTF8

theorem decodeText_eq_ok_iff {text : String} : decodeText bytes = .ok text ↔ text.toUTF8 = bytes := by
  rw [← fromUTF8?_eq_some_iff]
  unfold decodeText
  split
  · next found => rw [found]; simp
  · next none => rw [none]; simp

theorem readComponent_eq_ok_iff {word : List Char} {x : Float} :
    readComponent word = .ok x ↔ Gives word x := by
  unfold readComponent Gives
  split
  · next found => simp [found]
  · next none => simp [none]

theorem readComponents_eq_ok_iff {words : List (List Char)} {xs : List Float} :
    readComponents words = .ok xs ↔ List.Forall₂ Gives words xs := by
  induction words generalizing xs with
  | nil => cases xs <;> simp [readComponents]
  | cons word rest ih =>
      unfold readComponents
      constructor
      · intro read
        split at read
        · cases read
        · next x first =>
            split at read
            · cases read
            · next others => cases read; exact .cons (readComponent_eq_ok_iff.mp first) (ih.mp others)
      · intro given
        cases given with
        | cons gives others => rw [readComponent_eq_ok_iff.mpr gives, ih.mpr others]

theorem exists_of_components {words : List (List Char)} {x y z : Float}
    (given : List.Forall₂ Gives words [x, y, z]) :
    ∃ red green blue, words = [red, green, blue] ∧ Gives red x ∧ Gives green y ∧ Gives blue z := by
  cases given with
  | @cons red _ _ _ first given =>
      cases given with
      | @cons green _ _ _ second given =>
          cases given with
          | @cons blue _ _ _ third given =>
              cases given
              exact ⟨red, green, blue, rfl, first, second, third⟩

theorem readColor_eq_ok_iff {base : Rgb} : readColor bytes = .ok base ↔
    ∃ red green blue x y z, Spelled bytes [red, green, blue] ∧ Gives red x ∧ Gives green y ∧ Gives blue z ∧
      base = ⟨clampUnit x, clampUnit y, clampUnit z⟩ := by
  unfold readColor
  constructor
  · intro read
    split at read
    · cases read
    · next text decoded =>
        split at read
        · cases read
        · next x y z components =>
            obtain ⟨red, green, blue, shown, given⟩ :=
              exists_of_components (readComponents_eq_ok_iff.mp components)
            have spelled : Spelled bytes [red, green, blue] :=
              ⟨text, decodeText_eq_ok_iff.mp decoded, words_eq_iff.mp shown⟩
            exact ⟨red, green, blue, x, y, z, spelled, given.1, given.2.1, given.2.2, (Except.ok.inj read).symm⟩
        · cases read
  · intro ⟨red, green, blue, x, y, z, ⟨text, encoded, shown⟩, first, second, third, same⟩
    have given : readComponents [red, green, blue] = .ok [x, y, z] :=
      readComponents_eq_ok_iff.mpr (.cons first (.cons second (.cons third .nil)))
    simp only [decodeText_eq_ok_iff.mpr encoded, words_eq_iff.mpr shown, given, same]

theorem Spelled.unique {words others : List (List Char)} (spelled : Spelled bytes words)
    (again : Spelled bytes others) : words = others := by
  obtain ⟨text, encoded, shown⟩ := spelled
  obtain ⟨other, recoded, reshown⟩ := again
  have same : text = other := String.toByteArray_inj.mp (encoded.trans recoded.symm)
  subst same
  exact (words_eq_iff.mpr shown).symm.trans (words_eq_iff.mpr reshown)

theorem isLiteral_iff {word : List Char} : IsLiteral word ↔ ∃ x, Gives word x := by
  rw [← readLiteral_isSome_iff, Option.isSome_iff_exists]
  constructor
  · intro ⟨literal, read⟩
    exact ⟨literal.toFloat, literal, read, rfl⟩
  · intro ⟨_, literal, read, _⟩
    exact ⟨literal, read⟩

end Reading

/-- What is a base colour, and how its components follow from the words. -/
structure Colored (bytes : ByteArray) : Prop where
  reads : (∃ base, readColor bytes = .ok base) ↔
    ∃ red green blue, Spelled bytes [red, green, blue] ∧ IsLiteral red ∧ IsLiteral green ∧ IsLiteral blue
  clamps {base : Rgb} {red green blue : List Char} (read : readColor bytes = .ok base)
    (spelled : Spelled bytes [red, green, blue]) :
    Clamped red base.red ∧ Clamped green base.green ∧ Clamped blue base.blue

theorem readColor_colored (bytes : ByteArray) : Colored bytes where
  reads := by
    constructor
    · intro ⟨base, read⟩
      obtain ⟨red, green, blue, x, y, z, spelled, first, second, third, _⟩ := readColor_eq_ok_iff.mp read
      exact ⟨red, green, blue, spelled, isLiteral_iff.mpr ⟨x, first⟩, isLiteral_iff.mpr ⟨y, second⟩,
        isLiteral_iff.mpr ⟨z, third⟩⟩
    · intro ⟨red, green, blue, spelled, first, second, third⟩
      obtain ⟨x, first⟩ := isLiteral_iff.mp first
      obtain ⟨y, second⟩ := isLiteral_iff.mp second
      obtain ⟨z, third⟩ := isLiteral_iff.mp third
      exact ⟨_, readColor_eq_ok_iff.mpr ⟨red, green, blue, x, y, z, spelled, first, second, third, rfl⟩⟩
  clamps := by
    intro base red green blue read spelled
    obtain ⟨_, _, _, x, y, z, again, first, second, third, rfl⟩ := readColor_eq_ok_iff.mp read
    cases spelled.unique again
    exact ⟨first.clamped, second.clamped, third.clamped⟩

/-- The clamp lets pass what is no number. -/
theorem readColor_of_nan :
    ∃ base, readColor "nan 0.5 1".toUTF8 = .ok base ∧ ¬ (0.0 ≤ base.red ∧ base.red ≤ 1.0) := by
  have shown : Worded "nan 0.5 1".toList ["nan".toList, "0.5".toList, "1".toList] := words_eq_iff.mp (by decide)
  have first : Gives "nan".toList (Literal.notANumber false).toFloat := ⟨_, by decide, rfl⟩
  have second : Gives "0.5".toList (Literal.number false 5 (-1)).toFloat := ⟨_, by decide, rfl⟩
  have third : Gives "1".toList (Literal.number false 1 0).toFloat := ⟨_, by decide, rfl⟩
  have read := readColor_eq_ok_iff.mpr ⟨_, _, _, _, _, _, ⟨_, rfl, shown⟩, first, second, third, rfl⟩
  exact ⟨_, read, by decide +kernel⟩

end SurfaceGate.Clear
