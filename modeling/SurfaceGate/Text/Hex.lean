/-!
Numbers in base sixteen, lower case, filled with zeros on the left.
-/

namespace SurfaceGate.Text

def hexDigits (n : Nat) : List Char :=
  Nat.toDigits 16 n

def hexPadded (width n : Nat) : String :=
  let digits := hexDigits n
  String.ofList (List.replicate (width - digits.length) '0' ++ digits)

end SurfaceGate.Text
