/-!
Whole numbers as settings give them.

A whole number is an optional plus sign and at least one of the ten digits; zeros may lead.
-/

namespace SurfaceGate.Decimal

def isDigit (c : Char) : Bool :=
  '0' ≤ c && c ≤ '9'

def digitValue (c : Char) : Nat :=
  c.toNat - '0'.toNat

/-- The value of digits that follow a number `high`. -/
def valueAfter (high : Nat) (digits : List Char) : Nat :=
  digits.foldl (fun n c => 10 * n + digitValue c) high

def digitsValue (digits : List Char) : Nat :=
  valueAfter 0 digits

def dropPlus : List Char → List Char
  | '+' :: rest => rest
  | cs => cs

/-- The number that `cs` writes, if it writes one below `bound`. -/
def readWhole (bound : Nat) (cs : List Char) : Option Nat :=
  let digits := dropPlus cs
  if digits.isEmpty || !digits.all isDigit then none
  else
    let n := digitsValue digits
    if n < bound then some n else none

end SurfaceGate.Decimal
