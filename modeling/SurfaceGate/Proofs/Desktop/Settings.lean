import SurfaceGate.Desktop.Settings
import SurfaceGate.Proofs.Outline.Machine

/-!
The names of threads under settings that an environment can choose.

A name is refused for a null among its bytes. Only the null itself is encoded with one, and a thread is named
by a word and a number.
-/

namespace SurfaceGate

theorem mem_of_mem_toList {bytes : ByteArray} {byte : UInt8} (member : byte ∈ bytes.toList) :
    byte ∈ bytes.data.toList := by
  have looped (i : Nat) (read : List UInt8) (inside : byte ∈ ByteArray.toList.loop bytes i read) :
      byte ∈ read ∨ byte ∈ bytes.data.toList := by
    fun_induction ByteArray.toList.loop bytes i read with
    | case1 i read more ih =>
        rcases ih inside with here | there
        · rcases List.mem_cons.mp here with rfl | before
          · refine .inr (Array.mem_toList_iff.mpr ?_)
            change bytes.data[i]! ∈ bytes.data
            rw [getElem!_pos bytes.data i more]
            exact Array.getElem_mem more
          · exact .inl before
        · exact .inr there
    | case2 i read done => exact .inl (List.mem_reverse.mp inside)
  exact (looped 0 [] member).resolve_left List.not_mem_nil

/-- Only the null has a null among its bytes. -/
theorem eq_null_of_mem {c : Char} (member : 0 ∈ String.utf8EncodeChar c) : c = '\x00' := by
  have zero_iff (n : Nat) : 0 = UInt8.ofNat n ↔ n % 256 = 0 :=
    UInt8.toNat_inj.symm.trans eq_comm
  have value : c.val.toNat = 0 := by
    simp only [String.utf8EncodeChar] at member
    split at member
    · simp only [List.mem_singleton, zero_iff] at member
      omega
    · -- Every byte of a longer encoding has its high bit set.
      split at member
      · simp only [List.mem_cons, List.not_mem_nil, or_false, zero_iff] at member
        omega
      · split at member <;>
          · simp only [List.mem_cons, List.not_mem_nil, or_false, zero_iff] at member
            omega
  exact Char.ext (UInt32.toNat_inj.mp value)

theorem null_mem_of_bytes {s : String} (member : 0 ∈ s.toUTF8.toList) : '\x00' ∈ s.toList := by
  have encoded : 0 ∈ s.toList.flatMap String.utf8EncodeChar := by
    have there := mem_of_mem_toList member
    rw [String.toUTF8, ← String.utf8Encode_toList, List.utf8Encode, List.toList_data_toByteArray] at there
    exact there
  obtain ⟨c, here, null⟩ := List.mem_flatMap.mp encoded
  exact eq_null_of_mem null ▸ here

namespace Desktop.Settings

/-- No thread is refused its name: neither the word in it nor a number has a null. -/
theorem startPanic_ofVariables (vars : Variables) (cycle : Nat) :
    (ofVariables vars).rendering.startPanic? cycle = none := by
  have worker : (ofVariables vars).rendering.workerName = "ember-render" := by
    change (renderingOf vars).workerName = _
    simp only [renderingOf]
    cases (vars frameVariable).bind readNumber <;> rfl
  have unnamed : '\x00' ∉ ((ofVariables vars).rendering.threadName cycle).toList := by
    intro null
    have digit : '\x00' ∈ Nat.toDigits 10 cycle := by
      simpa [RenderSettings.threadName, worker, toString, Nat.repr] using null
    exact absurd (Nat.isDigit_of_mem_toDigits (by decide) (by decide) digit) (by decide)
  have whole : firstNull? ((ofVariables vars).rendering.threadName cycle).toUTF8.toList = none := by
    refine List.findIdx?_eq_none_iff.mpr fun byte member => ?_
    exact decide_eq_false fun null => unnamed (null_mem_of_bytes (null ▸ member))
  exact congrArg (Option.map _) whole

end Desktop.Settings
end SurfaceGate
