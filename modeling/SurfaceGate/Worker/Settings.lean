import SurfaceGate.Worker.Pacer

/-!
Settings of the render worker.
-/

namespace SurfaceGate

structure RenderSettings where
  /-- Rest between two frames, in nanoseconds. -/
  interval : Nat
  /-- Frames between two heartbeat lines; none are written when it is zero. -/
  heartbeat : Nat
  /-- Name of a worker without its cycle. -/
  workerName : String
  deriving DecidableEq, Repr

namespace RenderSettings

def default : RenderSettings where
  interval := 16 * Pacer.nanosPerMilli
  heartbeat := 60
  workerName := "ember-render"

def everyMillis (settings : RenderSettings) (millis : Nat) : RenderSettings :=
  { settings with interval := millis * Pacer.nanosPerMilli }

def everySeconds (settings : RenderSettings) (seconds : Nat) : RenderSettings :=
  { settings with interval := seconds * Pacer.nanosPerSecond }

def millis (settings : RenderSettings) : Nat :=
  settings.interval / Pacer.nanosPerMilli

def seconds (settings : RenderSettings) : Nat :=
  settings.interval / Pacer.nanosPerSecond

def nanos (settings : RenderSettings) : Nat :=
  settings.interval % Pacer.nanosPerSecond

def threadName (settings : RenderSettings) (cycle : Nat) : String :=
  s!"{settings.workerName}-{cycle}"

end RenderSettings
end SurfaceGate
