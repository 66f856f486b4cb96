/-!
Counting frames and resting between them.

After each frame the worker rests for a fixed interval, in nanoseconds. The moment at which the rest
ends is looked up before it begins, and has to be a time that the clock can name: seconds from
`2 ^ 63` on have no name.
-/

namespace SurfaceGate

structure Pacer where
  /-- Rest after a frame, in nanoseconds. -/
  interval : Nat
  frames : Nat
  deriving DecidableEq, Repr

inductive Rest where
  | elapsed
  | interrupted
  /-- Its end is past all times of the clock. -/
  | overrun
  deriving DecidableEq, Repr

namespace Pacer

def nanosPerSecond : Nat := 1000000000

def nanosPerMilli : Nat := 1000000

def new (interval : Nat) : Pacer := ⟨interval, 0⟩

/-- The counter has 64 bits and starts again when they are used up. -/
def countLimit : Nat := Nat.pow 2 64

/-- Counts a frame; its index is the number of frames before it. -/
def advance (p : Pacer) : Nat × Pacer :=
  (p.frames, { p with frames := (p.frames + 1) % countLimit })

/-- The times that a clock can name are below so many nanoseconds. -/
def timeLimit : Nat := Nat.pow 2 63 * nanosPerSecond

/-- Whether the clock cannot name the end of a rest that begins at `now`. -/
def overruns (p : Pacer) (now : Nat) : Bool :=
  timeLimit ≤ now + p.interval

/-- The end of a rest that begins at `now`, while the worker is (`running`) or is not asked to go on. The
limit counts even if the rest would be cut short. -/
def rest (p : Pacer) (now : Nat) (running : Bool) : Rest :=
  if p.overruns now then .overrun else if running then .elapsed else .interrupted

/-- Frames per second up to the last frame, which came `seconds` after the start. -/
def rate (p : Pacer) (seconds : Float32) : Float32 :=
  if seconds ≤ Float32.ofBits 0x34000000 then 0.0 else p.frames.toFloat32 / seconds

end Pacer
end SurfaceGate
