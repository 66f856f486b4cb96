import SurfaceGate.Engine.Contract

/-!
What the host reports to the controller, and what the controller asks of the host.
-/

namespace SurfaceGate

inductive Report (S : Type) where
  /-- There is a surface, without a size yet. -/
  | appeared
  | sized (size : Extent) (surface : S) (assets : AssetReader)
  | vanished
  | ended
  | motion (batch : Input.Motion)
  | key (key : Input.Key)

def Extent.shown (size : Extent) : String :=
  Input.shownRecord "SurfaceSize"
    [("width", toString size.width), ("height", toString size.height)]

/-- For messages; of a changed surface only the size is shown. -/
def Report.shown {S : Type} : Report S → String
  | .appeared => "SurfaceCreated"
  | .sized size _ _ => s!"SurfaceChanged \x7b size: {size.shown}, .. \x7d"
  | .vanished => "SurfaceDestroyed"
  | .ended => "ActivityDestroyed"
  | .motion batch => s!"Motion({batch.shown})"
  | .key pressed => s!"Key({pressed.shown})"

/-- What the host does for the controller before any surface, in its own monad. Nothing depends on
how it turns out. -/
structure HostSupport (m : Type → Type) where
  fillScreen : m Unit
  startSound : m (Except Failure Unit)

def HostSupport.absent {m : Type → Type} [Monad m] : HostSupport m where
  fillScreen := pure ()
  startSound := pure (.ok ())

end SurfaceGate
