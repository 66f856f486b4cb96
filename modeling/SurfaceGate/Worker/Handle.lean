import SurfaceGate.Failure
import SurfaceGate.Worker.Settings

/-!
The render worker as the host holds it.

A worker is a thread of its own. Its loop looks whether it is still to run, renders a frame and
rests; the worker is at one of these three places until it leaves the loop, or until a panic outside
a frame ends the thread.
-/

namespace SurfaceGate

inductive Ending where
  | stopped
  | gateClosed
  | frameFailed
  /-- A frame panicked, or the thread did. -/
  | panicked
  deriving DecidableEq, Repr

def Ending.shown : Ending → String
  | .stopped => "Stopped"
  | .gateClosed => "NotReady"
  | .frameFailed => "RenderFailed"
  | .panicked => "Panicked"

inductive Place where
  /-- About to look whether it is still to run. -/
  | checking
  | rendering
  /-- Behind a rendered frame, before or in its rest. -/
  | resting
  | left (ending : Ending)
  /-- Ended by a panic outside a frame. -/
  | died (panic : Panic)
  deriving DecidableEq, Repr

namespace Place

def ending? : Place → Option Ending
  | .left ending => some ending
  | .died _ => some .panicked
  | _ => none

/-- The steps that are left to a worker that is asked to end: out of a frame, out of the rest behind it,
and out of the loop. -/
def stepsLeft : Place → Nat
  | .rendering => 3
  | .resting => 2
  | .checking => 1
  | .left _ | .died _ => 0

theorem ending?_isSome_iff {place : Place} : place.ending?.isSome = true ↔ place.stepsLeft = 0 := by
  cases place <;> simp [ending?, stepsLeft]

end Place

structure Worker where
  cycle : Nat
  threadName : String
  heartbeat : Nat
  pacer : Pacer
  /-- What the clock shows, in nanoseconds, at the rest behind each frame: at `0` behind the last one,
  then behind those to come. -/
  clock : Nat → Nat
  /-- Cleared to ask the worker to end. -/
  running : Bool
  place : Place

namespace Worker

def new (settings : RenderSettings) (cycle : Nat) (clock : Nat → Nat) : Worker where
  cycle := cycle
  threadName := settings.threadName cycle
  heartbeat := settings.heartbeat
  pacer := Pacer.new settings.interval
  clock := clock
  running := true
  place := .checking

def hasEnded (w : Worker) : Bool :=
  w.place.ending?.isSome

def ending (w : Worker) (ended : w.hasEnded = true) : Ending :=
  w.place.ending?.get ended

def askToEnd (w : Worker) : Worker :=
  { w with running := false }

end Worker
end SurfaceGate
