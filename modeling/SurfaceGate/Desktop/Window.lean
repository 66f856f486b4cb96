import SurfaceGate.Clear.Engine
import SurfaceGate.Lifecycle.Controller

/-!
The window system of the desktop.

The system makes windows when it is asked to, and it may refuse. What it knows about the window on
the screen, its size and whether it fills the screen, changes behind the back of the host.
-/

namespace SurfaceGate.Desktop

inductive WindowCall where
  | waitForEvents
  | openWindow (title : String) (width height : Float)
  | fillScreen (borderless : Bool)
  | endLoop

/-- The answers of the window system, those to requests for a window counted from zero. -/
structure WindowSystem where
  openLoop : Except String Unit
  openWindow : Nat → Except String Unit
  closeLoop : Except String Unit

structure Screen where
  size : Extent
  filled : Bool
  deriving DecidableEq, Repr

inductive Stroke where
  | goesDown
  | moves
  | goesUp
  | isCancelled
  deriving DecidableEq, Repr

inductive WindowEvent where
  | gained
  | lost
  | leaving
  | close
  | sized (size : Extent)
  | focus (focused : Bool)
  | finger (number : Nat) (stroke : Stroke) (x y : Float)
  | cursor (x y : Float)
  /-- The left button goes down or up. -/
  | button (down : Bool)
  /-- A key with a code; a key that no code names has none. -/
  | key (code : Option Int) (down repeated : Bool)
  /-- Anything else, other buttons among it. -/
  | other

end SurfaceGate.Desktop
