import SurfaceGate.Desktop.Settings
import SurfaceGate.Proofs.Decimal.Whole
import SurfaceGate.Proofs.Text.Words

/-!
What an environment does to the settings.

Six variables count, each for a field of its own. Two of them hold numbers: a value that writes a whole number
between blanks takes effect if the number fits 64 bits, and every other value is complained about once.
-/

namespace SurfaceGate.Desktop.Settings

/-- What a variable can change. -/
inductive Field where
  | assetRoot
  | immersive
  | interval
  | heartbeat
  | filter
  | tag
  deriving DecidableEq, Repr

def Field.variable : Field → String
  | .assetRoot => assetsVariable
  | .immersive => immersiveVariable
  | .interval => frameVariable
  | .heartbeat => heartbeatVariable
  | .filter => logVariable
  | .tag => tagVariable

/-- Between blanks, the value writes a number of 64 bits. -/
def Means (value : String) (n : Nat) : Prop :=
  (∃ core, Text.Trims value.toList core ∧ Decimal.WritesWhole core n) ∧ n < Nat.pow 2 64

theorem readNumber_eq_some_iff {value : String} {n : Nat} : readNumber value = some n ↔ Means value n := by
  rw [readNumber, Decimal.readWhole_eq_some_iff, Means]
  refine and_congr_left fun _ => ⟨fun writes => ⟨_, Text.trimmed_eq_iff.mp rfl, writes⟩, ?_⟩
  rintro ⟨core, trims, writes⟩
  rwa [Text.trimmed_eq_iff.mpr trims]

section Fields

variable {vars vars' : Variables}

theorem interval_eq (vars : Variables) : (renderingOf vars).interval =
    ((vars frameVariable).bind readNumber).elim RenderSettings.default.interval (· * Pacer.nanosPerMilli) := by
  cases number : (vars frameVariable).bind readNumber with
  | none | some n => simp only [renderingOf, number, Option.elim, RenderSettings.everyMillis]

/-- The rest that an environment sets takes less than half of the time of a clock. -/
theorem interval_lt (vars : Variables) :
    (renderingOf vars).interval < Nat.pow 2 62 * Pacer.nanosPerSecond := by
  rw [interval_eq]
  cases number : (vars frameVariable).bind readNumber with
  | none => decide
  | some n =>
      obtain ⟨value, -, read⟩ := Option.bind_eq_some_iff.mp number
      have small : n < 4 * Nat.pow 2 62 := (readNumber_eq_some_iff.mp read).2
      simp only [Option.elim, Pacer.nanosPerMilli, Pacer.nanosPerSecond]
      omega

end Fields

/-- The rest between two frames is of so many milliseconds. -/
structure Rests (rendering : RenderSettings) (millis : Nat) : Prop where
  seconds : rendering.seconds = millis / 1000
  nanos : rendering.nanos = millis % 1000 * 1000000

example : readNumber " +0016\n" = some 16 ∧ readNumber "+" = none ∧ readNumber "18446744073709551616" = none := by
  decide

end SurfaceGate.Desktop.Settings
