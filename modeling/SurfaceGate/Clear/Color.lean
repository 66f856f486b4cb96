import SurfaceGate.Decimal.Literal
import SurfaceGate.Failure
import SurfaceGate.Graphics.System
import SurfaceGate.Text.Encoding
import SurfaceGate.Text.Quoted
import SurfaceGate.Text.Blank

/-!
The colour that fills the window.

The base colour is an asset of three literals between blanks, each moved into the range from zero to
one. Over it runs a slow pulse that the frames drive; fingers that are down lift it further, and the
place of the last touch decides how far red and green go along.
-/

namespace SurfaceGate.Clear

structure Rgb where
  red : Float
  green : Float
  blue : Float

def defaultBase : Rgb := ⟨0.05, 0.07, 0.12⟩

/-- The nearest number from zero to one. What is no number stays, and so does a negative zero. -/
def clampUnit (x : Float) : Float :=
  if x < 0.0 then 0.0 else if 1.0 < x then 1.0 else x

/-- The smaller number; what is no number counts as one. -/
def atMostOne (x : Float) : Float :=
  if x < 1.0 then x else 1.0

def decodeText (bytes : ByteArray) : Except Failure String :=
  match String.fromUTF8? bytes with
  | some text => .ok text
  | none =>
      let fault := (Text.firstFault bytes).getD ⟨0, none⟩
      .error ((Failure.of fault.message).within "not utf-8")

def readComponent (word : List Char) : Except Failure Float :=
  match Decimal.readLiteral word with
  | some literal => .ok literal.toFloat
  | none =>
      .error <| (Failure.of "invalid float literal").within
        s!"bad component {Text.quoted (String.ofList word)}"

/-- Reads words one after the other; the first that is no literal decides the error. -/
def readComponents : List (List Char) → Except Failure (List Float)
  | [] => .ok []
  | word :: rest =>
      match readComponent word with
      | .error why => .error why
      | .ok x =>
          match readComponents rest with
          | .error why => .error why
          | .ok xs => .ok (x :: xs)

def readColor (bytes : ByteArray) : Except Failure Rgb :=
  match decodeText bytes with
  | .error why => .error why
  | .ok text =>
      match readComponents (Text.words text.toList) with
      | .error why => .error why
      | .ok [red, green, blue] => .ok ⟨clampUnit red, clampUnit green, clampUnit blue⟩
      | .ok xs => .error (.of s!"expected 3 components, found {xs.length}")

def pulse (frame : UInt64) : Float :=
  Float.sin (frame.toFloat * 0.05) * 0.5 + 0.5

/-- How much the colour is lifted; more than four fingers lift no further. -/
def lift (frame : UInt64) (fingers : Nat) : Float :=
  0.08 * pulse frame + 0.15 * (min fingers 4).toFloat

def shade (base : Rgb) (frame : UInt64) (fingers : Nat) (spot : Input.Point) : Graphics.Color :=
  let up := lift frame fingers
  { red := atMostOne (base.red + up * spot.x.toFloat32.toFloat)
    green := atMostOne (base.green + up * spot.y.toFloat32.toFloat)
    blue := atMostOne (base.blue + up)
    alpha := 1.0 }

end SurfaceGate.Clear
