import SurfaceGate.Decimal.Single

/-!
Input as the host reports it and as the engine receives it.

The host reports batches of pointers with a packed action code, and keys. The engine receives events
of one pointer or one key each. Coordinates are carried by their bits, so that a position can be
compared bit by bit; arithmetic on them is done where they are used.
-/

namespace SurfaceGate.Input

/-- A single precision coordinate by its bits. -/
structure Coordinate where
  bits : UInt32
  deriving DecidableEq, Repr, Inhabited

def Coordinate.ofFloat32 (x : Float32) : Coordinate :=
  ⟨x.toBits⟩

def Coordinate.toFloat32 (c : Coordinate) : Float32 :=
  Float32.ofBits c.bits

def Coordinate.shown (c : Coordinate) : String :=
  (Decimal.Single.ofBits c.bits).shown

def Coordinate.tenths (c : Coordinate) : String :=
  (Decimal.Single.ofBits c.bits).tenths

structure Point where
  x : Coordinate
  y : Coordinate
  deriving DecidableEq, Repr, Inhabited

/-- Identity of a pointer while it is down; any whole number. -/
abbrev Identity := Int

inductive TouchChange where
  | down
  | up
  | move
  deriving DecidableEq, Repr

inductive KeyChange where
  | down
  | up
  deriving DecidableEq, Repr

/-- What the engine is told: one pointer or one key. -/
inductive Event where
  | touch (action : TouchChange) (pointer : Identity) (position : Point)
  | key (action : KeyChange) (code : Int)
  deriving DecidableEq, Repr

structure Sample where
  id : Identity
  position : Point
  deriving DecidableEq, Repr

/-- Every pointer on the surface in the order of the host, with a packed action code. -/
structure Motion where
  action : Int
  samples : List Sample
  deriving DecidableEq, Repr

structure Key where
  action : Int
  code : Int
  deriving DecidableEq, Repr

def TouchChange.shown : TouchChange → String
  | .down => "Down"
  | .up => "Up"
  | .move => "Move"

def KeyChange.shown : KeyChange → String
  | .down => "Down"
  | .up => "Up"

def shownRecord (name : String) (fields : List (String × String)) : String :=
  let shown := ", ".intercalate (fields.map fun (field, value) => field ++ ": " ++ value)
  name ++ " \x7b " ++ shown ++ " \x7d"

def Event.shown : Event → String
  | .touch action pointer position =>
      shownRecord "Touch" [("action", action.shown), ("pointer", toString pointer),
        ("x", position.x.shown), ("y", position.y.shown)]
  | .key action code =>
      shownRecord "Key" [("action", action.shown), ("code", toString code)]

def Sample.shown (s : Sample) : String :=
  shownRecord "RawPointer" [("id", toString s.id), ("x", s.position.x.shown),
    ("y", s.position.y.shown)]

def Motion.shown (m : Motion) : String :=
  shownRecord "RawMotion" [("action", toString m.action),
    ("pointers", "[" ++ ", ".intercalate (m.samples.map Sample.shown) ++ "]")]

def Key.shown (k : Key) : String :=
  shownRecord "RawKey" [("action", toString k.action), ("code", toString k.code)]

end SurfaceGate.Input
