/-!
Rounding a quotient to a whole number.
-/

namespace SurfaceGate.Decimal

def roundHalfEven (num den : Nat) : Nat :=
  let floor := num / den
  let rest := num % den
  if 2 * rest < den then floor
  else if den < 2 * rest then floor + 1
  else if floor % 2 = 0 then floor else floor + 1

end SurfaceGate.Decimal
