import Mathlib.Data.List.TakeWhile
import SurfaceGate.Decimal.Literal
import SurfaceGate.Proofs.Decimal.Whole

/-!
The grammar of floating point literals.

The grammar says how a literal is written: a sign or none, and then a name in any mix of cases, or digits with
a point at most and an exponent or none. What is read is exactly what the grammar writes.
-/

namespace SurfaceGate.Decimal

/-- A plus sign, a minus sign, or no sign. -/
inductive IsSign : List Char → Prop where
  | absent : IsSign []
  | plus : IsSign ['+']
  | minus : IsSign ['-']

def AreDigits (cs : List Char) : Prop :=
  ∀ c ∈ cs, isDigit c = true

/-- The name, in any mix of cases. -/
def Spells (cs : List Char) (name : String) : Prop :=
  cs.map Char.toLower = name.toList

/-- Digits with at most one point among or beside them. -/
inductive IsMantissa : List Char → Prop where
  | whole {digits : List Char} (nonempty : digits ≠ []) (all : AreDigits digits) : IsMantissa digits
  | pointed {before after : List Char} (nonempty : before ≠ [] ∨ after ≠ []) (all : AreDigits before)
      (others : AreDigits after) : IsMantissa (before ++ '.' :: after)

inductive IsExponent : List Char → Prop where
  | absent : IsExponent []
  | written {mark : Char} {sign digits : List Char} (marks : mark = 'e' ∨ mark = 'E') (signed : IsSign sign)
      (nonempty : digits ≠ []) (all : AreDigits digits) : IsExponent (mark :: (sign ++ digits))

inductive IsLiteral : List Char → Prop where
  | infinite {sign name : List Char} (signed : IsSign sign)
      (spells : Spells name "inf" ∨ Spells name "infinity") : IsLiteral (sign ++ name)
  | notANumber {sign name : List Char} (signed : IsSign sign) (spells : Spells name "nan") :
      IsLiteral (sign ++ name)
  | number {sign mantissa exponent : List Char} (signed : IsSign sign) (digits : IsMantissa mantissa)
      (scaled : IsExponent exponent) : IsLiteral (sign ++ (mantissa ++ exponent))

/-- The literals of what is no number. -/
def IsNaN (cs : List Char) : Prop :=
  ∃ sign name, IsSign sign ∧ Spells name "nan" ∧ cs = sign ++ name

section Signs

variable {cs sign body digits : List Char}

/-- It does not begin with a sign. -/
def Unsigned (cs : List Char) : Prop :=
  ∀ c ∈ cs.head?, c ≠ '+' ∧ c ≠ '-'

theorem splitSign_unsigned (unsigned : Unsigned cs) : splitSign cs = (false, cs) := by
  unfold splitSign
  split
  · exact absurd rfl (unsigned '-' rfl).2
  · exact absurd rfl (unsigned '+' rfl).1
  · rfl

theorem splitSign_append (signed : IsSign sign) (unsigned : Unsigned body) :
    ∃ negative, splitSign (sign ++ body) = (negative, body) := by
  cases signed with
  | absent => exact ⟨false, splitSign_unsigned unsigned⟩
  | plus => exact ⟨false, rfl⟩
  | minus => exact ⟨true, rfl⟩

theorem exists_sign (cs : List Char) : ∃ sign, IsSign sign ∧ cs = sign ++ (splitSign cs).2 := by
  unfold splitSign
  split
  · exact ⟨_, .minus, rfl⟩
  · exact ⟨_, .plus, rfl⟩
  · exact ⟨_, .absent, rfl⟩

theorem unsigned_cons {c : Char} (other : c ≠ '+' ∧ c ≠ '-') (rest : List Char) : Unsigned (c :: rest) := by
  rintro _ ⟨⟩
  exact other

theorem unsigned_of_digit {c : Char} (digit : isDigit c = true) (rest : List Char) : Unsigned (c :: rest) := by
  refine unsigned_cons ⟨?_, ?_⟩ rest
  · rintro rfl
    cases digit
  · rintro rfl
    cases digit

theorem unsigned_digits (all : AreDigits digits) : Unsigned digits := by
  cases digits with
  | nil => exact nofun
  | cons c rest => exact unsigned_of_digit (all c List.mem_cons_self) rest

theorem Spells.unsigned {name : String} (spells : Spells cs name)
    (letter : Unsigned name.toList) : Unsigned cs := by
  cases cs with
  | nil => exact nofun
  | cons c rest =>
      have first := letter c.toLower (by rw [← spells]; rfl)
      refine unsigned_cons ⟨?_, ?_⟩ rest
      · rintro rfl
        exact first.1 rfl
      · rintro rfl
        exact first.2 rfl

end Signs

section Reading

variable {cs digits rest : List Char}

theorem ofList_eq_iff {name : String} : String.ofList (cs.map Char.toLower) = name ↔ Spells cs name := by
  rw [← String.toList_inj, String.toList_ofList, Spells]

theorem readExponent_isSome_iff : (readExponent cs).isSome ↔ IsExponent cs := by
  constructor
  · intro read
    cases cs with
    | nil => exact .absent
    | cons mark rest =>
        obtain ⟨sign, signed, split⟩ := exists_sign rest
        simp only [readExponent] at read
        split at read
        · next marks =>
            split at read
            · cases read
            · next accepted =>
                obtain ⟨nonempty, all⟩ := (accepted_iff _).mp (eq_false_of_ne_true accepted)
                rw [split]
                exact .written (by simpa using marks) signed nonempty all
        · cases read
  · intro exponent
    cases exponent with
    | absent => rfl
    | @written mark sign digits marks signed nonempty all =>
        obtain ⟨negative, split⟩ := splitSign_append signed (unsigned_digits all)
        have accepted := (accepted_iff digits).mpr ⟨nonempty, all⟩
        have marked : (decide (mark = 'e') || decide (mark = 'E')) = true := by simpa using marks
        simp only [readExponent, marked, split, accepted, if_true]
        cases negative <;> rfl

/-- Behind digits: no further digit. -/
def Stops (rest : List Char) : Prop :=
  ∀ c ∈ rest.head?, isDigit c = false

theorem takeWhile_digits (all : AreDigits digits) (stops : Stops rest) :
    (digits ++ rest).takeWhile isDigit = digits := by
  rw [List.takeWhile_append_of_pos all]
  cases rest with
  | nil => simp
  | cons c rest => simp [stops c rfl]

theorem dropWhile_digits (all : AreDigits digits) (stops : Stops rest) :
    (digits ++ rest).dropWhile isDigit = rest := by
  rw [List.dropWhile_append_of_pos all]
  cases rest with
  | nil => rfl
  | cons c rest => simp [stops c rfl]

theorem areDigits_takeWhile (cs : List Char) : AreDigits (cs.takeWhile isDigit) :=
  fun _ => List.mem_takeWhile_imp

theorem IsExponent.stops (exponent : IsExponent cs) : Stops cs := by
  cases exponent with
  | absent => exact nofun
  | written marks _ _ _ =>
      rintro _ ⟨⟩
      rcases marks with rfl | rfl <;> rfl

theorem IsExponent.unpointed (exponent : IsExponent cs) (rest : List Char) : cs ≠ '.' :: rest := by
  rintro rfl
  cases exponent with
  | written marks _ _ _ => rcases marks with marks | marks <;> cases marks

/-- Digits and a point come first. -/
theorem readUnsigned_pointed {after : List Char} (pointed : cs.dropWhile isDigit = '.' :: after)
    (negative : Bool) : (readUnsigned negative cs).isSome ↔
      (cs.takeWhile isDigit ≠ [] ∨ after.takeWhile isDigit ≠ []) ∧ IsExponent (after.dropWhile isDigit) := by
  rw [← readExponent_isSome_iff]
  simp only [readUnsigned, pointed]
  generalize cs.takeWhile isDigit = whole, after.takeWhile isDigit = fraction
  cases whole <;> cases fraction <;> simp

theorem readUnsigned_whole (unpointed : ∀ after, cs.dropWhile isDigit ≠ '.' :: after) (negative : Bool) :
    (readUnsigned negative cs).isSome ↔ cs.takeWhile isDigit ≠ [] ∧ IsExponent (cs.dropWhile isDigit) := by
  rw [← readExponent_isSome_iff]
  unfold readUnsigned
  generalize cs.takeWhile isDigit = whole
  split
  next fraction rest found =>
    split at found
    · next after pointed => exact absurd pointed (unpointed after)
    · cases found
      cases whole <;> simp

theorem readUnsigned_isSome_iff {negative : Bool} : (readUnsigned negative cs).isSome ↔
    ∃ mantissa exponent, IsMantissa mantissa ∧ IsExponent exponent ∧ cs = mantissa ++ exponent := by
  constructor
  · intro read
    have split : cs.takeWhile isDigit ++ cs.dropWhile isDigit = cs := List.takeWhile_append_dropWhile
    by_cases pointed : ∃ after, cs.dropWhile isDigit = '.' :: after
    · obtain ⟨after, pointed⟩ := pointed
      obtain ⟨digits, exponent⟩ := (readUnsigned_pointed pointed negative).mp read
      have mantissa := IsMantissa.pointed digits (areDigits_takeWhile cs) (areDigits_takeWhile after)
      refine ⟨_, _, mantissa, exponent, ?_⟩
      rw [List.append_assoc, List.cons_append, List.takeWhile_append_dropWhile, ← pointed, split]
    · rw [not_exists] at pointed
      obtain ⟨digits, exponent⟩ := (readUnsigned_whole pointed negative).mp read
      exact ⟨_, _, .whole digits (areDigits_takeWhile cs), exponent, split.symm⟩
  · rintro ⟨mantissa, exponent, digits, scaled, rfl⟩
    cases digits with
    | whole nonempty all =>
        have dropped := dropWhile_digits all scaled.stops
        rw [readUnsigned_whole (fun after same => scaled.unpointed after (dropped.symm.trans same)), dropped,
          takeWhile_digits all scaled.stops]
        exact ⟨nonempty, scaled⟩
    | @pointed before after nonempty all others =>
        have point : Stops ('.' :: (after ++ exponent)) := by
          rintro _ ⟨⟩
          rfl
        rw [List.append_assoc, List.cons_append, readUnsigned_pointed (dropWhile_digits all point),
          takeWhile_digits all point, takeWhile_digits others scaled.stops,
          dropWhile_digits others scaled.stops]
        exact ⟨nonempty, scaled⟩

theorem IsMantissa.unsigned {mantissa : List Char} (digits : IsMantissa mantissa) (rest : List Char) :
    Unsigned (mantissa ++ rest) := by
  cases digits with
  | whole nonempty all =>
      obtain ⟨c, more, rfl⟩ := List.exists_cons_of_ne_nil nonempty
      exact unsigned_of_digit (all c List.mem_cons_self) _
  | @pointed before after _ all _ =>
      cases before with
      | nil => exact unsigned_cons (by decide) _
      | cons c more => exact unsigned_of_digit (all c List.mem_cons_self) _

theorem IsNaN.read (literal : IsNaN cs) : ∃ negative, readLiteral cs = some (.notANumber negative) := by
  obtain ⟨sign, name, signed, spells, rfl⟩ := literal
  obtain ⟨negative, split⟩ := splitSign_append signed (spells.unsigned (unsigned_cons (by decide) _))
  have word : String.ofList (name.map Char.toLower) = "nan" := ofList_eq_iff.mpr spells
  refine ⟨negative, ?_⟩
  simp only [readLiteral, split, word]
  rfl

theorem isNaN_of_read {negative : Bool} (read : readLiteral cs = some (.notANumber negative)) : IsNaN cs := by
  obtain ⟨sign, signed, split⟩ := exists_sign cs
  simp only [readLiteral] at read
  split at read
  · cases read
  · split at read
    · next spells => exact ⟨sign, _, signed, ofList_eq_iff.mp spells, split⟩
    · -- The digits left are read as a number if as anything.
      simp only [readUnsigned] at read
      repeat' split at read
      all_goals simp at read

theorem readLiteral_isSome_iff : (readLiteral cs).isSome ↔ IsLiteral cs := by
  constructor
  · intro read
    obtain ⟨sign, signed, split⟩ := exists_sign cs
    rw [split]
    simp only [readLiteral] at read
    split at read
    · next spells => exact .infinite signed (by simpa [ofList_eq_iff] using spells)
    · split at read
      · next spells => exact .notANumber signed (ofList_eq_iff.mp spells)
      · obtain ⟨mantissa, exponent, digits, scaled, body⟩ := readUnsigned_isSome_iff.mp read
        rw [body]
        exact .number signed digits scaled
  · intro literal
    cases literal with
    | @infinite sign name signed spells =>
        have unsigned : Unsigned name :=
          spells.elim (·.unsigned (unsigned_cons (by decide) _)) (·.unsigned (unsigned_cons (by decide) _))
        obtain ⟨negative, split⟩ := splitSign_append signed unsigned
        simp only [readLiteral, split, Bool.or_eq_true, decide_eq_true_eq, ofList_eq_iff, spells, if_true]
        rfl
    | notANumber signed spells =>
        obtain ⟨negative, read⟩ := IsNaN.read ⟨_, _, signed, spells, rfl⟩
        rw [read]
        rfl
    | @number sign mantissa exponent signed digits scaled =>
        obtain ⟨negative, split⟩ := splitSign_append signed (digits.unsigned exponent)
        have read : (readUnsigned negative (mantissa ++ exponent)).isSome :=
          readUnsigned_isSome_iff.mpr ⟨_, _, digits, scaled, rfl⟩
        simp only [readLiteral, split]
        split
        · rfl
        · split
          · rfl
          · exact read

end Reading

end SurfaceGate.Decimal
