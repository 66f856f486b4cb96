/-!
Faults of a byte sequence that should be UTF-8.

A fault is where the longest well-formed beginning ends. It is either a wrong sequence, of one to
three bytes that can begin no character, or a right one that the end of the bytes cuts short.
-/

namespace SurfaceGate.Text

inductive Leading where
  /-- A whole character of so many bytes. -/
  | character (length : Nat)
  /-- So many bytes that begin no character. -/
  | wrong (length : Nat)
  /-- The beginning of a character that the bytes do not finish. -/
  | unfinished
  deriving DecidableEq, Repr

def isContinuation (b : UInt8) : Bool :=
  0x80 ≤ b && b ≤ 0xbf

/-- How many bytes the character that begins with `b` has, and the range of its second byte. -/
def shape (b : UInt8) : Option (Nat × UInt8 × UInt8) :=
  if 0xc2 ≤ b && b ≤ 0xdf then some (2, 0x80, 0xbf)
  else if b = 0xe0 then some (3, 0xa0, 0xbf)
  else if b = 0xed then some (3, 0x80, 0x9f)
  else if 0xe1 ≤ b && b ≤ 0xef then some (3, 0x80, 0xbf)
  else if b = 0xf0 then some (4, 0x90, 0xbf)
  else if 0xf1 ≤ b && b ≤ 0xf3 then some (4, 0x80, 0xbf)
  else if b = 0xf4 then some (4, 0x80, 0x8f)
  else none

/-- Reads `missing` continuation bytes after the `found` bytes of a character. -/
def continued (found : Nat) : Nat → List UInt8 → Leading
  | 0, _ => .character found
  | _ + 1, [] => .unfinished
  | missing + 1, b :: rest =>
      if isContinuation b then continued (found + 1) missing rest else .wrong found

def leading (first : UInt8) (rest : List UInt8) : Leading :=
  if first < 0x80 then .character 1
  else
    match shape first with
    | none => .wrong 1
    | some (length, low, high) =>
        match rest with
        | [] => .unfinished
        | second :: rest =>
            if low ≤ second && second ≤ high then continued 2 (length - 2) rest else .wrong 1

/-- Where well-formed text ends; `length` is absent when only the end of the bytes is at fault. -/
structure EncodingFault where
  index : Nat
  length : Option Nat
  deriving DecidableEq, Repr

def EncodingFault.message (fault : EncodingFault) : String :=
  match fault.length with
  | some length =>
      s!"invalid utf-8 sequence of {length} bytes from index {fault.index}"
  | none => s!"incomplete utf-8 byte sequence from index {fault.index}"

/-- Looks for the first fault in `bytes`, the part of a text that begins at `index`. -/
def firstFaultFrom (index : Nat) : List UInt8 → Option EncodingFault
  | [] => none
  | first :: rest =>
      match leading first rest with
      | .wrong length => some ⟨index, some length⟩
      | .unfinished => some ⟨index, none⟩
      | .character length => firstFaultFrom (index + length) (rest.drop (length - 1))
  termination_by bytes => bytes.length
  decreasing_by simp only [List.length_drop, List.length_cons]; omega

def firstFault (bytes : ByteArray) : Option EncodingFault :=
  firstFaultFrom 0 bytes.toList

end SurfaceGate.Text
