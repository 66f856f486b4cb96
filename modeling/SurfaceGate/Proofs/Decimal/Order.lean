import SurfaceGate.Decimal.Literal

/-!
The order of the doubles, and which of them are numbers.

Any two numbers compare, one way or the other. A double that was put together from its parts is a number
unless it was none before, so negation keeps what is no number, and a literal is no number only if it says so.
-/

namespace SurfaceGate.Decimal

open Float.Model Float.Model.UnpackedFloat

section Comparison

variable {a b : UnpackedFloat} {x y : Float}

theorem compare_swap (a b : UnpackedFloat) : b.compare a = (a.compare b).map Ordering.swap := by
  have sizes (m n : Nat) (d e : Int) :
      (compare e d).then (compare n m) = ((compare d e).then (compare m n)).swap := by
    rw [Ordering.swap_then, Int.compare_swap, Nat.compare_swap]
  -- Only two of one sign have to be looked at in full.
  rcases a with (_ | _) | _ | _ | ⟨_ | _, m, d, _⟩ <;>
    rcases b with (_ | _) | _ | _ | ⟨_ | _, n, e, _⟩ <;> try rfl
  · exact congrArg (fun order => some (Ordering.swap order)) (sizes m n d e)
  · exact congrArg some (sizes m n d e)

theorem isSome_compare (a b : UnpackedFloat) : (a.compare b).isSome = (!a.isNaN && !b.isNaN) := by
  rcases a with (_ | _) | _ | _ | ⟨_ | _, m, d, _⟩ <;>
    rcases b with (_ | _) | _ | _ | ⟨_ | _, n, e, _⟩ <;> rfl

theorem compare_isSome_iff : (a.compare b).isSome ↔ a.isNaN = false ∧ b.isNaN = false := by
  rw [isSome_compare, Bool.and_eq_true, Bool.not_eq_true', Bool.not_eq_true']

theorem le_iff : x ≤ y ↔ x.toModel.unpack.le y.toModel.unpack = true :=
  decide_eq_true_iff

theorem lt_iff : x < y ↔ x.toModel.unpack.lt y.toModel.unpack = true :=
  decide_eq_true_iff

theorem isNaN_eq_false_of_le (below : x ≤ y) : x.isNaN = false ∧ y.isNaN = false := by
  apply compare_isSome_iff.mp
  rw [le_iff, UnpackedFloat.le] at below
  cases compared : x.toModel.unpack.compare y.toModel.unpack with
  | none => rw [compared] at below; cases below
  | some order => rfl

theorem isNaN_eq_false_of_lt (below : x < y) : x.isNaN = false ∧ y.isNaN = false := by
  apply compare_isSome_iff.mp
  rw [lt_iff, UnpackedFloat.lt, beq_iff_eq] at below
  rw [below]
  rfl

theorem le_of_not_lt (number : x.isNaN = false) (other : y.isNaN = false) (above : ¬ x < y) : y ≤ x := by
  obtain ⟨order, compared⟩ := Option.isSome_iff_exists.mp (compare_isSome_iff.mpr ⟨number, other⟩)
  rw [lt_iff, UnpackedFloat.lt, compared] at above
  rw [le_iff, UnpackedFloat.le, compare_swap, compared]
  cases order with
  | lt => exact absurd rfl above
  | eq => rfl
  | gt => rfl

end Comparison

section Numbers

theorem isNaN_unpack_iff {bits : BitVec Format.binary64.numBits} :
    (UnpackedFloat.unpack Format.binary64 bits).isNaN ↔
      unpackExponent bits = -1#_ ∧ unpackMantissa bits ≠ 0#_ := by
  unfold UnpackedFloat.unpack
  extract_lets mantissa exponent scale signBit sign
  by_cases full : exponent = -1#_
  · rw [if_pos full]
    by_cases none : mantissa = 0#_
    · rw [if_pos none]
      exact iff_of_false Bool.false_ne_true fun both => both.2 none
    · rw [if_neg none]
      exact iff_of_true rfl ⟨full, none⟩
  · rw [if_neg full]
    refine iff_of_false ?_ fun both => full both.1
    by_cases small : exponent = 0#_
    · rw [if_pos small]
      by_cases none : mantissa = 0#_
      · rw [dif_pos none]
        exact Bool.false_ne_true
      · rw [dif_neg none]
        exact Bool.false_ne_true
    · rw [if_neg small]
      exact Bool.false_ne_true

theorem not_isNaN_packedInfinity (s : Sign) :
    ¬ (UnpackedFloat.unpack Format.binary64 (packedInfinity Format.binary64 s)).isNaN := by
  rw [isNaN_unpack_iff]
  exact fun both => both.2 unpackMantissa_packComponents

/-- What is packed is a number unless it was none before, though it may have become infinite. -/
theorem isNaN_pack (x : UnpackedFloat) : (Float.Model.pack x).isNaN = x.isNaN := by
  rw [Bool.eq_iff_iff]
  change (UnpackedFloat.unpack Format.binary64 (UnpackedFloat.pack Format.binary64 x)).isNaN = true ↔ _
  cases x with
  | notANumber => decide +kernel
  | infinity s => exact iff_of_false (not_isNaN_packedInfinity s) Bool.false_ne_true
  | zero s => cases s <;> decide +kernel
  | finite s m e positive =>
      refine iff_of_false ?_ Bool.false_ne_true
      unfold UnpackedFloat.pack
      extract_lets places biased
      split
      · exact not_isNaN_packedInfinity s
      · next small =>
          rw [isNaN_unpack_iff]
          split
          · rintro ⟨full, -⟩
            rw [unpackExponent_packComponents] at full
            have full : biased % 2048 = 2047 := congrArg BitVec.toNat full
            have small : ¬ 2048 ≤ biased + 1 := small
            omega
          · intro both
            have partly := unpackExponent_packComponents.symm.trans both.1
            exact absurd partly (by decide)

theorem isNaN_neg (x : Float) : (-x).isNaN = x.isNaN := by
  refine (isNaN_pack x.toModel.unpack.neg).trans ?_
  change _ = x.toModel.unpack.isNaN
  cases x.toModel.unpack <;> rfl

/-- Up to the bits of infinity there are numbers only. -/
theorem isNaN_ofBits {n : Nat} (bounded : n ≤ infinityBits) : (Float.ofBits n.toUInt64).isNaN = false := by
  refine Bool.eq_false_iff.mpr fun absent => ?_
  obtain ⟨full, some⟩ := isNaN_unpack_iff.mp ((isNaN_pack _).symm.trans absent)
  have full : (n % 18446744073709551616) >>> 52 % 2048 = 2047 := congrArg BitVec.toNat full
  refine some (BitVec.eq_of_toNat_eq ?_)
  change (n % 18446744073709551616) >>> 0 % 4503599627370496 = 0
  rw [Nat.shiftRight_eq_div_pow] at full ⊢
  unfold infinityBits at bounded
  omega

theorem doubleBits_le (num den : Nat) : doubleBits num den ≤ infinityBits := by
  unfold doubleBits
  split
  · exact Nat.zero_le _
  · exact Nat.min_le_left _ _

theorem decimalBits_le (digits : Nat) (exponent : Int) : decimalBits digits exponent ≤ infinityBits := by
  unfold decimalBits
  extract_lets magnitude
  split
  · exact Nat.zero_le _
  · split
    · exact Nat.le_refl _
    · exact doubleBits_le _ _

theorem Literal.toFloat_isNaN_iff (literal : Literal) :
    literal.toFloat.isNaN = true ↔ ∃ negative, literal = .notANumber negative := by
  cases literal with
  | notANumber negative =>
      have absent : (0.0 / 0.0 : Float).isNaN = true := by decide +kernel
      exact iff_of_true absent ⟨negative, rfl⟩
  | infinite negative =>
      have number : (Literal.infinite negative).toFloat.isNaN = false := by cases negative <;> decide +kernel
      exact iff_of_false (Bool.eq_false_iff.mp number) nofun
  | number negative digits exponent =>
      have number := isNaN_ofBits (decimalBits_le digits exponent)
      have negated := (isNaN_neg _).trans number
      have read : (Literal.number negative digits exponent).toFloat.isNaN = false := by
        cases negative
        · exact number
        · exact negated
      exact iff_of_false (Bool.eq_false_iff.mp read) nofun

end Numbers

end SurfaceGate.Decimal
