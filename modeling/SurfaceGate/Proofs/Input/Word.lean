import SurfaceGate.Proofs.Input.Code

/-!
Codes in signed words of 32 bits.

A word is taken apart by masks and shifts, and an index of 64 bits is cut to a word before it is shifted to
its byte. On every word, whatever its sign, and for every index this is the arithmetic of codes. So a word
says what its low half says, and of an action it keeps all but the higher bytes of an index.
-/

namespace SurfaceGate.Input

namespace Code

def actionMask : BitVec 32 := 0xff

def indexMask : BitVec 32 := 0xff00

/-- The second byte of a word. The shift keeps the sign of a word, but the mask leaves none. -/
def unpacked (code : BitVec 32) : BitVec 64 :=
  ((code &&& indexMask).sshiftRight 8).signExtend 64

/-- A word with an index in its second byte. -/
def packed (index : BitVec 64) : BitVec 32 :=
  (index.setWidth 32 <<< 8) &&& indexMask

/-- A signed word is its bits modulo `2 ^ 32`. -/
theorem toInt_emod (code : BitVec 32) : code.toInt % 0x100000000 = code.toNat := by
  have bound := code.isLt
  rw [BitVec.toInt_eq_toNat_cond]
  split <;> omega

theorem toInt_of_short (code : BitVec 32) (short : code.toNat < 0x10000) : code.toInt = code.toNat :=
  BitVec.toInt_eq_toNat_of_lt (by omega)

theorem toNat_and_actionMask (code : BitVec 32) : (code &&& actionMask).toNat = code.toNat % 256 := by
  rw [BitVec.toNat_and]
  exact Nat.and_two_pow_sub_one_eq_mod code.toNat 8

theorem toNat_and_indexMask (code : BitVec 32) :
    (code &&& indexMask).toNat >>> 8 = code.toNat / 256 % 256 := by
  rw [BitVec.toNat_and, Nat.shiftRight_and_distrib, Nat.shiftRight_eq_div_pow]
  exact Nat.and_two_pow_sub_one_eq_mod (code.toNat / 256) 8

theorem action_toInt (code : BitVec 32) : action code.toInt = (code &&& actionMask).toInt := by
  have word := toInt_emod code
  have masked := toNat_and_actionMask code
  rw [action, toInt_of_short (code &&& actionMask) (by omega)]
  omega

theorem index_toInt (code : BitVec 32) : index code.toInt = (unpacked code).toNat := by
  have word := toInt_emod code
  have positive : (code &&& indexMask).msb = false := by
    rw [BitVec.msb_and]
    exact Bool.and_false _
  have shifted : ((code &&& indexMask).sshiftRight 8).toNat = code.toNat / 256 % 256 := by
    rw [BitVec.toNat_sshiftRight_of_msb_false positive, toNat_and_indexMask]
  have still_positive : ((code &&& indexMask).sshiftRight 8).msb = false := by
    rw [BitVec.msb_sshiftRight]
    exact positive
  have byte : (unpacked code).toNat = code.toNat / 256 % 256 := by
    rw [unpacked, BitVec.signExtend_eq_setWidth_of_msb_false still_positive, BitVec.toNat_setWidth,
      shifted]
    omega
  rw [index, byte]
  omega

theorem toNat_packed (index : BitVec 64) : (packed index).toNat = (index.toNat % 256) <<< 8 := by
  have cut : (index.setWidth 32 <<< 8).toNat = (index.toNat % 0x1000000) <<< 8 := by
    rw [BitVec.toNat_shiftLeft, BitVec.toNat_setWidth, Nat.shiftLeft_eq, Nat.shiftLeft_eq]
    omega
  calc (packed index).toNat
      = (index.toNat % 0x1000000) <<< 8 &&& 255 <<< 8 := by
        rw [packed, BitVec.toNat_and, cut]
        rfl
    _ = (index.toNat % 0x1000000 % 256) <<< 8 := by
        rw [← Nat.shiftLeft_and_distrib]
        exact congrArg (· <<< 8) (Nat.and_two_pow_sub_one_eq_mod _ 8)
    _ = (index.toNat % 256) <<< 8 := by
        rw [Nat.mod_mod_of_dvd _ (by decide)]

theorem withIndex_toNat (low : BitVec 8) (index : BitVec 64) :
    withIndex low.toNat index.toNat = (low.setWidth 32 ||| packed index).toInt := by
  have small := low.isLt
  have joined : (low.setWidth 32 ||| packed index).toNat = (index.toNat % 256) <<< 8 + low.toNat := by
    rw [BitVec.toNat_or, BitVec.toNat_setWidth_of_le (by decide), toNat_packed, Nat.or_comm,
      Nat.shiftLeft_add_eq_or_of_lt small]
  rw [Nat.shiftLeft_eq] at joined
  rw [withIndex, toInt_of_short _ (by omega), joined]
  omega

/-- Two codes with the same low half say the same. -/
theorem ofCode?_congr {code other : Int} (same : code % 0x10000 = other % 0x10000) :
    Action.ofCode? code = Action.ofCode? other := by
  have low : action code = action other := by
    simp only [action]
    omega
  have second : index code = index other := by
    simp only [index]
    omega
  simp only [Action.ofCode?, low, second]

theorem ofCode?_low (code : BitVec 32) :
    Action.ofCode? code.toInt = Action.ofCode? (code.setWidth 16).toNat := by
  have word := toInt_emod code
  refine ofCode?_congr ?_
  rw [BitVec.toNat_setWidth]
  omega

end Code

namespace Action

theorem withIndex_bounds (low : Int) (index : Nat) :
    low ≤ Code.withIndex low index ∧ Code.withIndex low index ≤ low + 0xff00 := by
  rw [Code.withIndex]
  omega

theorem toCode_bounds (action : Action) (count : Nat) :
    0 ≤ action.toCode count ∧ action.toCode count ≤ 0xffff := by
  cases action with
  | down index | up index =>
      have downs := withIndex_bounds Code.pointerDown index
      have ups := withIndex_bounds Code.pointerUp index
      simp only [toCode, Code.down, Code.up, Code.pointerDown, Code.pointerUp] at *
      split <;> omega
  | move | cancel => simp [toCode, Code.move, Code.cancel]

/-- A lone pointer is the first of its batch, and the only one. -/
theorem toCode_lone_iff (action : Action) (count : Nat) :
    (action.toCode count = Code.down ∨ action.toCode count = Code.up) ↔
      count ≤ 1 ∧ (action = .down 0 ∨ action = .up 0) := by
  cases action with
  | down index | up index =>
      have downs := withIndex_bounds Code.pointerDown index
      have ups := withIndex_bounds Code.pointerUp index
      simp only [toCode, Code.down, Code.up, Code.pointerDown, Code.pointerUp, reduceCtorEq,
        down.injEq, up.injEq, false_or, or_false] at *
      split <;> omega
  | move | cancel => simp [toCode, Code.move, Code.cancel, Code.down, Code.up]

theorem narrowed_eq_self_iff (action : Action) :
    action.narrowed = action ↔
      action = .move ∨ action = .cancel ∨ ∃ index ≤ 255, action = .down index ∨ action = .up index := by
  cases action with
  | down index | up index =>
      simp only [narrowed, reduceCtorEq, down.injEq, up.injEq, false_or, or_false]
      constructor
      · intro same
        exact ⟨index, by omega, rfl⟩
      · rintro ⟨_, low, rfl⟩
        omega
  | move | cancel => simp [narrowed]

/-- What a code says fits a code. -/
theorem narrowed_of_ofCode? {code : Int} {action : Action} (said : ofCode? code = some action) :
    action.narrowed = action := by
  have byte : Code.index code % 256 = Code.index code := by
    rw [Code.index]
    omega
  rw [ofCode?] at said
  split at said <;> cases said <;> simp [narrowed, byte]

/-- What a code keeps of an action. -/
structure Coded (action : Action) (count : Nat) : Prop where
  read : ofCode? (action.toCode count) = some action.narrowed
  read_iff : ofCode? (action.toCode count) = some action ↔
    action = .move ∨ action = .cancel ∨ ∃ index ≤ 255, action = .down index ∨ action = .up index
  lone_iff : (action.toCode count = Code.down ∨ action.toCode count = Code.up) ↔
    count ≤ 1 ∧ (action = .down 0 ∨ action = .up 0)
  bounds : 0 ≤ action.toCode count ∧ action.toCode count ≤ 0xffff

theorem coded (action : Action) (count : Nat) : action.Coded count where
  read := action.ofCode?_toCode count
  read_iff := by
    rw [ofCode?_toCode, Option.some.injEq]
    exact action.narrowed_eq_self_iff
  lone_iff := action.toCode_lone_iff count
  bounds := action.toCode_bounds count

end Action

/-- What a word says. -/
structure Code.Read (code : BitVec 32) : Prop where
  low : Action.ofCode? code.toInt = Action.ofCode? (code.setWidth 16).toNat
  again : ∀ action, Action.ofCode? code.toInt = some action → ∀ count,
    Action.ofCode? (action.toCode count) = some action
  action : Code.action code.toInt = (code &&& actionMask).toInt
  index : Code.index code.toInt = (unpacked code).toNat

theorem Code.read (code : BitVec 32) : Code.Read code where
  low := ofCode?_low code
  again action said count := by rw [Action.ofCode?_toCode, Action.narrowed_of_ofCode? said]
  action := action_toInt code
  index := index_toInt code

/-- Codes and actions tell the same, but for the higher bytes of a word and of an index. -/
theorem Code.reads_packed :
    (∀ (action : Action) (count : Nat), action.Coded count) ∧ (∀ code, Code.Read code) ∧
      ∀ (low : BitVec 8) (index : BitVec 64),
        withIndex low.toNat index.toNat = (low.setWidth 32 ||| packed index).toInt :=
  ⟨Action.coded, read, withIndex_toNat⟩

end SurfaceGate.Input
