import SurfaceGate.Decimal.Double
import SurfaceGate.Decimal.Whole

/-!
Floating point literals.

A literal is an optional sign followed by `inf`, `infinity` or `nan` in any mix of cases, or by a
number: digits with at most one point among or beside them, at least one digit, and optionally an
exponent, which is `e` or `E`, an optional sign and at least one digit. Its value is the double
nearest to the number written, ties to even.
-/

namespace SurfaceGate.Decimal

inductive Literal where
  | notANumber (negative : Bool)
  | infinite (negative : Bool)
  /-- The number `digits * 10 ^ exponent` with its sign. -/
  | number (negative : Bool) (digits : Nat) (exponent : Int)
  deriving DecidableEq, Repr

/-- A leading sign, and the characters behind it. -/
def splitSign : List Char → Bool × List Char
  | '-' :: rest => (true, rest)
  | '+' :: rest => (false, rest)
  | cs => (false, cs)

/-- The exponent written by all of `cs`; nothing at all is the exponent zero. -/
def readExponent : List Char → Option Int
  | [] => some 0
  | mark :: rest =>
      if mark = 'e' || mark = 'E' then
        let (negative, digits) := splitSign rest
        if digits.isEmpty || !digits.all isDigit then none
        else if negative then some (-(digitsValue digits : Int))
        else some (digitsValue digits)
      else none

def readUnsigned (negative : Bool) (cs : List Char) : Option Literal :=
  let whole := cs.takeWhile isDigit
  let (fraction, rest) :=
    match cs.dropWhile isDigit with
    | '.' :: rest => (rest.takeWhile isDigit, rest.dropWhile isDigit)
    | rest => ([], rest)
  if whole.isEmpty && fraction.isEmpty then none
  else
    (readExponent rest).map fun exponent =>
      .number negative (digitsValue (whole ++ fraction)) (exponent - fraction.length)

def readLiteral (cs : List Char) : Option Literal :=
  let (negative, body) := splitSign cs
  let word := String.ofList (body.map Char.toLower)
  if word = "inf" || word = "infinity" then some (.infinite negative)
  else if word = "nan" then some (.notANumber negative)
  else readUnsigned negative body

/-- Bits of the double nearest to `digits * 10 ^ exponent`. A first digit at `10 ^ 310` or above
overflows, one at `10 ^ -330` or below vanishes, whatever follows it. -/
def decimalBits (digits : Nat) (exponent : Int) : Nat :=
  let magnitude := (Nat.toDigits 10 digits).length + exponent
  if digits = 0 || magnitude < -330 then 0
  else if 310 < magnitude then infinityBits
  else doubleBits (digits * Nat.pow 10 exponent.toNat) (Nat.pow 10 (-exponent).toNat)

def Literal.toFloat : Literal → Float
  | .notANumber _ => 0.0 / 0.0
  | .infinite negative => if negative then -1.0 / 0.0 else 1.0 / 0.0
  | .number negative digits exponent =>
      let x := Float.ofBits (decimalBits digits exponent).toUInt64
      if negative then -x else x

end SurfaceGate.Decimal
