import SurfaceGate.Decimal.Rounding

/-!
The double nearest to a quotient of whole numbers.

A positive double is a mantissa of up to 53 bits times a power of two from `2 ^ -1074` on. Ordered
by size, the positive doubles have their bits in order too, so a mantissa that rounds up to 54 bits
carries into the exponent by itself.
-/

namespace SurfaceGate.Decimal

def infinityBits : Nat := 0x7ff0000000000000

/-- Least power of two of a mantissa. -/
def leastExponent : Int := -1074

/-- The quotient in units of `2 ^ exponent`, as numerator and denominator. -/
def inUnits (num den : Nat) (exponent : Int) : Nat × Nat :=
  (num * Nat.pow 2 (-exponent).toNat, den * Nat.pow 2 exponent.toNat)

/-- The power of two whose multiples are the doubles about the quotient: the one that leaves 53 bits
before the point, unless that is too small. -/
def unitExponent (num den : Nat) : Int :=
  let guess : Int := (num.log2 : Int) - den.log2 - 53
  let (n, d) := inUnits num den guess
  max leastExponent (if Nat.pow 2 53 * d ≤ n then guess + 1 else guess)

/-- Bits of the double nearest to `num / den`, ties to even. -/
def doubleBits (num den : Nat) : Nat :=
  if num = 0 then 0
  else
    let exponent := unitExponent num den
    let (n, d) := inUnits num den exponent
    min infinityBits ((exponent - leastExponent).toNat * Nat.pow 2 52 + roundHalfEven n d)

end SurfaceGate.Decimal
