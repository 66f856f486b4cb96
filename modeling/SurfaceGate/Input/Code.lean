import SurfaceGate.Input.Event
import SurfaceGate.Text.Hex

/-!
Packed action codes.

The low byte of a motion code is the action. For a pointer that goes down or up beside others the
second byte is its index in the batch. Higher bytes have no meaning, so a code matters only modulo
`2 ^ 16`, and a negative code by its two's complement.
-/

namespace SurfaceGate.Input

/-- What a motion code says; `index` names a pointer of the batch. -/
inductive Action where
  | down (index : Nat)
  | up (index : Nat)
  | move
  | cancel
  deriving DecidableEq, Repr

namespace Code

def down : Int := 0
def up : Int := 1
def move : Int := 2
def cancel : Int := 3
def pointerDown : Int := 5
def pointerUp : Int := 6

def keyDown : Int := 0
def keyUp : Int := 1

/-- The low byte. -/
def action (code : Int) : Int :=
  code % 256

/-- The second byte. -/
def index (code : Int) : Nat :=
  (code / 256 % 256).toNat

def withIndex (action : Int) (index : Nat) : Int :=
  action + 256 * (index % 256 : Nat)

def shown (code : Int) : String :=
  "0x" ++ Text.hexPadded 4 (code % 0x100000000).toNat

end Code

/-- The action of a code; hover, scroll and the like have none. -/
def Action.ofCode? (code : Int) : Option Action :=
  match Code.action code with
  | 0 => some (.down 0)
  | 1 => some (.up 0)
  | 2 => some .move
  | 3 => some .cancel
  | 5 => some (.down (Code.index code))
  | 6 => some (.up (Code.index code))
  | _ => none

/-- The code of an action in a batch of `count` pointers. A lone pointer has codes of its own. -/
def Action.toCode (count : Nat) : Action → Int
  | .down index =>
      if count ≤ 1 ∧ index = 0 then Code.down else Code.withIndex Code.pointerDown index
  | .up index =>
      if count ≤ 1 ∧ index = 0 then Code.up else Code.withIndex Code.pointerUp index
  | .move => Code.move
  | .cancel => Code.cancel

/-- Down and up only; a repeat is no key action. -/
def KeyChange.ofCode? (code : Int) : Option KeyChange :=
  if code = Code.keyDown then some .down
  else if code = Code.keyUp then some .up
  else none

end SurfaceGate.Input
