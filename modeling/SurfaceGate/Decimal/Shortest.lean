/-!
The shortest decimal that reads back as a given binary number.

A binary floating point number stands for an interval of reals, those that round to it. Among the
decimals in the interval the one with the fewest digits is chosen, of two with equally many the one
nearer to the number, of two equally near the upper one.
-/

namespace SurfaceGate.Decimal

/-- The number `digits * 10 ^ exponent`. -/
structure Numeral where
  digits : Nat
  exponent : Int
  deriving DecidableEq, Repr

/-- The reals that round to one number, in units of `2 ^ unit`. -/
structure Interval where
  low : Nat
  value : Nat
  high : Nat
  unit : Int
  /-- Whether the two ends round to the number as well. -/
  closed : Bool
  deriving DecidableEq, Repr

/-- The interval of `mantissa * 2 ^ exponent`. Below the least mantissa of an exponent the
neighbour is only half as far away (`narrow`). -/
def Interval.around (mantissa : Nat) (exponent : Int) (narrow : Bool) : Interval where
  low := if narrow then 4 * mantissa - 1 else 4 * mantissa - 2
  value := 4 * mantissa
  high := 4 * mantissa + 2
  unit := exponent - 2
  closed := mantissa % 2 = 0

/-- Numerator and denominator of `2 ^ unit / 10 ^ power`. -/
def scale (unit power : Int) : Nat × Nat :=
  (Nat.pow 2 unit.toNat * Nat.pow 10 (-power).toNat,
    Nat.pow 2 (-unit).toNat * Nat.pow 10 power.toNat)

/-- Whether `n` steps of `10 ^ power` lie in the interval. -/
def Interval.holds (i : Interval) (power : Int) (n : Nat) : Bool :=
  let (num, den) := scale i.unit power
  if i.closed then i.low * num ≤ n * den && n * den ≤ i.high * num
  else i.low * num < n * den && n * den < i.high * num

/-- The best multiple of `10 ^ power` in the interval, if one of the value's two neighbours on that
grid is in it. -/
def Interval.onGrid (i : Interval) (power : Int) : Option Nat :=
  let (num, den) := scale i.unit power
  let below := i.value * num / den
  let above := below + 1
  if i.holds power below && i.holds power above then
    some (if 2 * (i.value * num) < (below + above) * den then below else above)
  else if i.holds power below then some below
  else if i.holds power above then some above
  else none

/-- The least power of ten above the value, from `10 ^ -400` on. -/
def Interval.magnitude (i : Interval) : Int :=
  let (num, den) := scale i.unit 0
  let whole := i.value * num / den
  let vanishes (k : Nat) : Bool := i.value * num * Nat.pow 10 (k + 1) < den
  if whole = 0 then -(((List.range 400).takeWhile vanishes).length : Int)
  else (Nat.toDigits 10 whole).length

/-- Drops at most `fuel` zeros at the end. -/
def Numeral.strip (d : Numeral) : Nat → Numeral
  | 0 => d
  | fuel + 1 =>
      if d.digits ≠ 0 ∧ d.digits % 10 = 0 then strip ⟨d.digits / 10, d.exponent + 1⟩ fuel else d

/-- Tries grids of one, two and more digits, at most `fuel` of them. -/
def Interval.firstGrid (i : Interval) (power : Int) : Nat → Numeral
  | 0 => ⟨i.value, i.unit⟩
  | fuel + 1 =>
      match i.onGrid power with
      | some n => Numeral.strip ⟨n, power⟩ 20
      | none => firstGrid i (power - 1) fuel

/-- The shortest decimal in the interval; 17 digits always suffice for numbers of 64 bits. -/
def Interval.shortest (i : Interval) : Numeral :=
  i.firstGrid (i.magnitude - 1) 17

def zeros (n : Int) : List Char :=
  List.replicate n.toNat '0'

def Numeral.leading (d : Numeral) : Int :=
  (Nat.toDigits 10 d.digits).length + d.exponent - 1

/-- Without an exponent, at least one digit on either side of the point. -/
def Numeral.positional (d : Numeral) : String :=
  let digits := Nat.toDigits 10 d.digits
  let point := digits.length + d.exponent
  String.ofList <|
    if point ≤ 0 then '0' :: '.' :: zeros (-point) ++ digits
    else if digits.length ≤ point then digits ++ zeros (point - digits.length) ++ ['.', '0']
    else digits.take point.toNat ++ '.' :: digits.drop point.toNat

/-- One digit before the point, no point after a single digit. -/
def Numeral.scientific (d : Numeral) : String :=
  let power := toString d.leading
  match Nat.toDigits 10 d.digits with
  | [] => "0e0"
  | [digit] => String.ofList [digit] ++ "e" ++ power
  | digit :: rest => String.ofList (digit :: '.' :: rest) ++ "e" ++ power

end SurfaceGate.Decimal
