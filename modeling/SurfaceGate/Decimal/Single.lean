import SurfaceGate.Decimal.Rounding
import SurfaceGate.Decimal.Shortest

/-!
Texts of single precision numbers.

A number is given by its 32 bits. `Single.shown` writes the shortest decimal that reads back, with
an exponent from `10 ^ 16` on and below `10 ^ -4`. `Single.tenths` writes the exact value rounded to
one place after the point, a half going to the even neighbour.
-/

namespace SurfaceGate.Decimal

inductive Single where
  | notANumber
  | infinite (negative : Bool)
  /-- The number `mantissa * 2 ^ exponent` with its sign; `narrow` as for `Interval.around`. -/
  | finite (negative : Bool) (mantissa : Nat) (exponent : Int) (narrow : Bool)
  deriving DecidableEq, Repr

def signBit : Nat := 0x80000000

/-- The bit above the fraction: the lowest of the exponent, and the leading one of a mantissa. -/
def leadingBit : Nat := 0x800000

def Single.ofBits (bits : UInt32) : Single :=
  let n := bits.toNat
  let negative : Bool := signBit ≤ n
  let exponent : Nat := n / leadingBit % 256
  let fraction : Nat := n % leadingBit
  if exponent = 255 then
    if fraction = 0 then .infinite negative else .notANumber
  else if exponent = 0 then .finite negative fraction (-149) false
  else .finite negative (leadingBit + fraction) (exponent - 150) (fraction = 0 && exponent ≠ 1)

structure Layout where
  /-- Least power of ten of a first digit that is written without an exponent. -/
  positionalFrom : Int
  /-- First power of ten that is written with an exponent. -/
  positionalBelow : Int

def shownLayout : Layout := ⟨-4, 16⟩

def signed (negative : Bool) (text : String) : String :=
  if negative then "-" ++ text else text

/-- The shortest text that reads back. -/
def Single.shown : Single → String
  | .notANumber => "NaN"
  | .infinite negative => signed negative "inf"
  | .finite negative 0 _ _ => signed negative "0.0"
  | .finite negative mantissa exponent narrow =>
      let d := (Interval.around mantissa exponent narrow).shortest
      signed negative <|
        if shownLayout.positionalFrom ≤ d.leading && d.leading < shownLayout.positionalBelow then
          d.positional
        else d.scientific

/-- One place after the point. -/
def Single.tenths : Single → String
  | .notANumber => "NaN"
  | .infinite negative => signed negative "inf"
  | .finite negative mantissa exponent _ =>
      let n :=
        roundHalfEven (10 * mantissa * Nat.pow 2 exponent.toNat) (Nat.pow 2 (-exponent).toNat)
      signed negative s!"{n / 10}.{n % 10}"

end SurfaceGate.Decimal
