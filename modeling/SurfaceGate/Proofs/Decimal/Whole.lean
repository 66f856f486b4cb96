import Mathlib.Data.Nat.Digits.Lemmas
import SurfaceGate.Decimal.Whole

/-!
Whole numbers and the texts that write them.

A number is read exactly from the texts that write it: its places from the highest to the lowest, as many zeros
in front as one likes, and a plus sign before them or not.
-/

namespace SurfaceGate.Decimal

/-- `cs` writes the number `n`. -/
def WritesWhole (cs : List Char) (n : Nat) : Prop :=
  ∃ places : List Nat, places ≠ [] ∧ (∀ d ∈ places, d < 10) ∧
    (cs = places.map Nat.digitChar ∨ cs = '+' :: places.map Nat.digitChar) ∧
    Nat.ofDigits 10 places.reverse = n

theorem isDigit_iff (c : Char) : isDigit c = true ↔ ∃ d < 10, c = Nat.digitChar d := by
  constructor
  · intro digit
    have range : 48 ≤ c.toNat ∧ c.toNat ≤ 57 := by
      simpa [isDigit, Char.le_def, UInt32.le_iff_toNat_le] using digit
    refine ⟨c.toNat - 48, by omega, Char.toNat_inj.mp ?_⟩
    rw [Nat.toNat_digitChar_of_lt_ten (by omega)]
    omega
  · rintro ⟨d, small, rfl⟩
    interval_cases d <;> rfl

theorem digitValue_digitChar {d : Nat} (small : d < 10) : digitValue (Nat.digitChar d) = d := by
  rw [digitValue, Nat.toNat_digitChar_of_lt_ten small]
  exact Nat.add_sub_cancel_left 48 d

theorem exists_places {digits : List Char} (all : ∀ c ∈ digits, isDigit c = true) :
    ∃ places : List Nat, (∀ d ∈ places, d < 10) ∧ digits = places.map Nat.digitChar := by
  induction digits with
  | nil => exact ⟨[], nofun, rfl⟩
  | cons c rest ih =>
      obtain ⟨first, others⟩ := List.forall_mem_cons.mp all
      obtain ⟨d, small, rfl⟩ := (isDigit_iff c).mp first
      obtain ⟨places, smalls, rfl⟩ := ih others
      exact ⟨d :: places, List.forall_mem_cons.mpr ⟨small, smalls⟩, rfl⟩

/-- Further digits move the number in front of them up. -/
theorem valueAfter_digits {places : List Nat} (small : ∀ d ∈ places, d < 10) (high : Nat) :
    valueAfter high (places.map Nat.digitChar) =
      Nat.ofDigits 10 places.reverse + Nat.pow 10 places.length * high := by
  induction places generalizing high with
  | nil => simp [valueAfter]
  | cons d rest ih =>
      obtain ⟨first, others⟩ := List.forall_mem_cons.mp small
      have next : valueAfter high ((d :: rest).map Nat.digitChar) =
          valueAfter (10 * high + d) (rest.map Nat.digitChar) := by
        rw [List.map_cons, valueAfter, List.foldl_cons, digitValue_digitChar first]
        rfl
      rw [next, ih others, List.reverse_cons, Nat.ofDigits_append, List.length_reverse,
        Nat.ofDigits_singleton]
      simp only [Nat.pow_eq, List.length_cons, Nat.pow_succ]
      ring

theorem digitsValue_digits {places : List Nat} (small : ∀ d ∈ places, d < 10) :
    digitsValue (places.map Nat.digitChar) = Nat.ofDigits 10 places.reverse := by
  rw [digitsValue, valueAfter_digits small, Nat.mul_zero, Nat.add_zero]

theorem dropPlus_digits {places : List Nat} (small : ∀ d ∈ places, d < 10) :
    dropPlus (places.map Nat.digitChar) = places.map Nat.digitChar := by
  cases places with
  | nil => rfl
  | cons d rest =>
      have digit := (isDigit_iff _).mpr ⟨d, small d List.mem_cons_self, rfl⟩
      rw [List.map_cons, dropPlus]
      rintro _ same
      rw [(List.cons.inj same).1] at digit
      cases digit

/-- What `dropPlus` takes away is a plus sign, if anything. -/
theorem eq_of_dropPlus {cs digits : List Char} (dropped : dropPlus cs = digits) :
    cs = digits ∨ cs = '+' :: digits := by
  unfold dropPlus at dropped
  split at dropped
  · exact .inr (congrArg _ dropped)
  · exact .inl dropped

/-- The texts that no reader of digits refuses. -/
theorem accepted_iff (digits : List Char) :
    (digits.isEmpty || !digits.all isDigit) = false ↔ digits ≠ [] ∧ ∀ c ∈ digits, isDigit c = true := by
  simp

theorem readWhole_eq_some_iff {bound n : Nat} {cs : List Char} :
    readWhole bound cs = some n ↔ WritesWhole cs n ∧ n < bound := by
  constructor
  · intro read
    simp only [readWhole] at read
    split at read
    · cases read
    · next accepted =>
        obtain ⟨nonempty, all⟩ := (accepted_iff _).mp (eq_false_of_ne_true accepted)
        split at read
        · next fits =>
            obtain ⟨places, small, digits⟩ := exists_places all
            rw [digits, digitsValue_digits small] at read fits
            obtain rfl := Option.some.inj read
            refine ⟨⟨places, ?_, small, eq_of_dropPlus digits, rfl⟩, fits⟩
            rintro rfl
            exact nonempty digits
        · cases read
  · rintro ⟨⟨places, nonempty, small, written, rfl⟩, fits⟩
    have digits : dropPlus cs = places.map Nat.digitChar := by
      rcases written with rfl | rfl
      · exact dropPlus_digits small
      · rfl
    have all : ∀ c ∈ places.map Nat.digitChar, isDigit c = true := by
      intro c member
      obtain ⟨d, here, rfl⟩ := List.mem_map.mp member
      exact (isDigit_iff _).mpr ⟨d, small d here, rfl⟩
    have accepted := (accepted_iff (places.map Nat.digitChar)).mpr ⟨by simpa using nonempty, all⟩
    simp only [readWhole, digits, accepted, digitsValue_digits small, if_pos fits]
    rfl

end SurfaceGate.Decimal
