/-!
Blank characters, and texts cut at them.

Blank means the Unicode property White_Space, 25 characters. A zero-width space, a byte order mark
and the information separators U+001C to U+001F are not among them.
-/

namespace SurfaceGate.Text

/-- The characters with the property White_Space. -/
def isBlank (c : Char) : Bool :=
  let n := c.toNat
  (0x9 ≤ n && n ≤ 0xd) || n = 0x20 || n = 0x85 || n = 0xa0 || n = 0x1680
    || (0x2000 ≤ n && n ≤ 0x200a) || n = 0x2028 || n = 0x2029 || n = 0x202f || n = 0x205f
    || n = 0x3000

def trimmed (cs : List Char) : List Char :=
  ((cs.dropWhile isBlank).reverse.dropWhile isBlank).reverse

def trim (s : String) : String :=
  String.ofList (trimmed s.toList)

/-- Reads words on from one of which `word` is already read, last character first. -/
def wordsAfter (word : List Char) : List Char → List (List Char)
  | [] => if word.isEmpty then [] else [word.reverse]
  | c :: rest =>
      if isBlank c then
        if word.isEmpty then wordsAfter [] rest else word.reverse :: wordsAfter [] rest
      else wordsAfter (c :: word) rest

/-- The longest runs without a blank, in order. -/
def words (cs : List Char) : List (List Char) :=
  wordsAfter [] cs

/-- Cuts at every `mark`; a text with `n` marks has `n + 1` pieces, some of them perhaps empty. -/
def cutAt (mark : Char) : List Char → List (List Char)
  | [] => [[]]
  | c :: rest =>
      if c = mark then [] :: cutAt mark rest
      else
        match cutAt mark rest with
        | [] => [[c]]
        | piece :: pieces => (c :: piece) :: pieces

theorem cutAt_ne_nil (mark : Char) (cs : List Char) : cutAt mark cs ≠ [] := by
  cases cs with
  | nil => simp [cutAt]
  | cons c rest =>
      by_cases h : c = mark
      · simp [cutAt, h]
      · simp only [cutAt, h, if_false]
        split <;> simp

end SurfaceGate.Text
