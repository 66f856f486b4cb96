import SurfaceGate.Engine.Gate

/-!
The render loop, step by step.

A worker takes one step at a time: it looks whether it is still to run, it renders a frame through
the gate, it rests. Between two of its steps the host may do as much as it likes, so any
interleaving of the two threads is some choice of how many steps the worker takes when. A frame that
fails or panics ends the loop; a rest that overruns the clock ends the thread. A worker that is asked to
end has ended within three steps, wherever it was.
-/

namespace SurfaceGate

def firstNull? (bytes : List UInt8) : Option Nat :=
  bytes.findIdx? (· = 0)

def nullInThreadName (bytes : List UInt8) (index : Nat) : Panic :=
  let shown := ", ".intercalate (bytes.map fun b => toString b.toNat)
  .text s!"thread name may not contain interior null bytes: NulError({index}, [{shown}])"

/-- What a rest panics with that overruns the clock. -/
def restOverflow : Panic :=
  .text "overflow when adding duration to instant"

namespace Worker

def isHeartbeat (w : Worker) (index : Nat) : Bool :=
  0 < w.heartbeat && index % w.heartbeat = 0

def startedLine (cycle : Nat) (settings : RenderSettings) : Log.Line :=
  ⟨.info, s!"render worker {cycle} started ({settings.millis} ms interval)"⟩

/-- The times that a clock would add to the line are left out. -/
def heartbeatLine (w : Worker) (index : Nat) : Log.Line :=
  ⟨.info, s!"render worker {w.cycle}: frame {index}"⟩

def failedLine (w : Worker) (error : GateError) : Log.Line :=
  ⟨.error, s!"render worker {w.cycle}: {error.message}; "
    ++ "rendering stops until the next surface change"⟩

def panickedLine (w : Worker) (panic : Panic) : Log.Line :=
  ⟨.error, s!"render worker {w.cycle}: frame panicked: {panic.message}; "
    ++ "rendering stops until the next surface change"⟩

def stoppedLine (w : Worker) (ending : Ending) : Log.Line :=
  ⟨.info, s!"render worker {w.cycle} stopped ({ending.shown}) after {w.pacer.frames} frames"⟩

def diedLine (w : Worker) (panic : Panic) : Log.Line :=
  ⟨.error, s!"render worker {w.cycle} died outside a frame: {panic.message}"⟩

end Worker

namespace Session

variable {E : Engine} {H : Type}

def setWorker (w : Worker) (s : Session E H) : Session E H :=
  { s with worker := some w }

def logFrom (w : Worker) (line : Log.Line) (s : Session E H) : Session E H :=
  s.write (.line (.worker w.threadName) line)

def leave (w : Worker) (ending : Ending) (s : Session E H) : Session E H :=
  (s.logFrom w (w.stoppedLine ending)).setWorker { w with place := .left ending }

def counted (w : Worker) (s : Session E H) : Session E H :=
  let (index, pacer) := w.pacer.advance
  let s := if w.isHeartbeat index then s.logFrom w (w.heartbeatLine index) else s
  s.setWorker { w with pacer, clock := fun n => w.clock (n + 1), place := .resting }

def attempt (w : Worker) (s : Session E H) : Session E H :=
  match Gate.render (.worker w.threadName) s with
  | .ok (.ok .drawn) s => s.counted w
  | .ok (.ok .withheld) s => s.leave w .gateClosed
  | .ok (.error error) s => (s.logFrom w (w.failedLine error)).leave w .frameFailed
  | .error panic s => (s.logFrom w (w.panickedLine panic)).leave w .panicked

def stepOf (w : Worker) (s : Session E H) : Session E H :=
  match w.place with
  | .checking =>
      if w.running then s.setWorker { w with place := .rendering } else s.leave w .stopped
  | .rendering => s.attempt w
  | .resting =>
      match w.pacer.rest (w.clock 0) w.running with
      | .elapsed | .interrupted => s.setWorker { w with place := .checking }
      | .overrun => s.setWorker { w with place := .died restOverflow }
  | .left _ | .died _ => s

def step (s : Session E H) : Session E H :=
  match s.worker with
  | none => s
  | some w => s.stepOf w

def steps : Nat → Session E H → Session E H
  | 0, s => s
  | n + 1, s => steps n s.step

def stopWorker (s : Session E H) : Session E H :=
  { s with worker := s.worker.map Worker.askToEnd }

/-- A worker that is asked to end takes at most so many steps more. -/
def stepsToEnd : Nat := 3

/-- The worker is asked to end, and has at most `n` steps left. -/
def Nearing (n : Nat) (s : Session E H) : Prop :=
  ∀ w, s.worker = some w → w.running = false ∧ w.place.stepsLeft ≤ n

theorem Nearing.of_setWorker {n : Nat} {s : Session E H} {w : Worker} (asked : w.running = false)
    (near : w.place.stepsLeft ≤ n) : (s.setWorker w).Nearing n := by
  intro v held
  cases held
  exact ⟨asked, near⟩

theorem nearing_attempt {w : Worker} (asked : w.running = false) (s : Session E H) :
    (s.attempt w).Nearing 2 := by
  simp only [attempt]
  split
  · exact .of_setWorker asked (Nat.le_refl 2)
  · exact .of_setWorker asked (Nat.zero_le 2)
  · exact .of_setWorker asked (Nat.zero_le 2)
  · exact .of_setWorker asked (Nat.zero_le 2)

theorem Nearing.step {n : Nat} {s : Session E H} (nearing : s.Nearing n) : s.step.Nearing (n - 1) := by
  simp only [Session.step]
  split
  · next free => exact fun w held => nomatch free.symm.trans held
  · next w held =>
      obtain ⟨asked, near⟩ := nearing w held
      simp only [stepOf]
      cases place : w.place with
      | checking =>
          rw [asked]
          exact .of_setWorker asked (Nat.zero_le _)
      | rendering =>
          rw [place] at near
          intro v drawn
          obtain ⟨still, nearer⟩ := nearing_attempt asked s v drawn
          exact ⟨still, Nat.le_trans nearer (Nat.sub_le_sub_right near 1)⟩
      | resting =>
          rw [place] at near
          dsimp only
          split
          · exact .of_setWorker asked (Nat.sub_le_sub_right near 1)
          · exact .of_setWorker asked (Nat.sub_le_sub_right near 1)
          · exact .of_setWorker asked (Nat.zero_le _)
      | left _ | died _ =>
          intro v same
          cases held.symm.trans same
          rw [place]
          exact ⟨asked, Nat.zero_le _⟩

theorem Nearing.steps {n : Nat} {s : Session E H} (nearing : s.Nearing n) (m : Nat) :
    (s.steps m).Nearing (n - m) := by
  induction m generalizing n s with
  | zero => exact nearing
  | succ m ih =>
      have later := ih nearing.step
      rwa [Nat.sub_sub, Nat.add_comm] at later

theorem nearing_stopWorker (s : Session E H) : s.stopWorker.Nearing stepsToEnd := by
  intro w held
  obtain ⟨v, -, rfl⟩ := Option.map_eq_some_iff.mp held
  refine ⟨rfl, ?_⟩
  cases place : v.place <;> simp [Worker.askToEnd, place, Place.stepsLeft, stepsToEnd]

/-- A worker that was asked to end has ended behind these steps, whatever it met on its way. -/
theorem hasEnded_of_stopped {s : Session E H} {w : Worker}
    (held : (s.stopWorker.steps stepsToEnd).worker = some w) : w.hasEnded = true := by
  obtain ⟨-, near⟩ := (nearing_stopWorker s).steps stepsToEnd w held
  rw [Nat.sub_self] at near
  exact Place.ending?_isSome_iff.mpr (Nat.le_zero.mp near)

/-- The host takes the end of a worker that has ended. -/
def join (w : Worker) (ended : w.hasEnded = true) (s : Session E H) : Session E H :=
  let s := { s with worker := none }
  let s :=
    match w.place with
    | .died panic => s.write (.line .host (w.diedLine panic))
    | _ => s
  s.write (.joined w.cycle (w.ending ended))

def takeWorker (s : Session E H) : Option (Worker × Ending) × Session E H :=
  let halted := s.stopWorker.steps stepsToEnd
  match held : halted.worker with
  | none => (none, halted)
  | some w =>
      have ended := hasEnded_of_stopped held
      (some (w, w.ending ended), halted.join w ended)

theorem takeWorker_of_free {s : Session E H} (free : (s.stopWorker.steps stepsToEnd).worker = none) :
    s.takeWorker = (none, s.stopWorker.steps stepsToEnd) := by
  simp only [takeWorker]
  split
  · rfl
  · next held => exact nomatch free.symm.trans held

theorem takeWorker_of_held {s : Session E H} {w : Worker}
    (held : (s.stopWorker.steps stepsToEnd).worker = some w) :
    s.takeWorker = (some (w, w.ending (hasEnded_of_stopped held)),
      (s.stopWorker.steps stepsToEnd).join w (hasEnded_of_stopped held)) := by
  simp only [takeWorker]
  split
  · next free => exact nomatch free.symm.trans held
  · next v same =>
      cases same.symm.trans held
      rfl

end Session

namespace Act

variable {E : Engine} {H : Type}

def letRun (n : Nat) : Act E H Unit :=
  modify (·.steps n)

/-- Stops the worker and waits for its end. Answers which worker it was and why it ended. -/
def joinWorker : Act E H (Option (Worker × Ending)) :=
  modifyGet (·.takeWorker)

def dropWorker : Act E H Unit := do
  let _ ← joinWorker

/-- Starts the worker of a cycle, which takes `ahead` steps at once. The name of its thread may hold
no null character; `startable` is whether the system starts a thread now, and `clock` is what the worker
will see of the time. A worker of an earlier cycle is dropped, but only when the new one runs. -/
def startWorker (settings : RenderSettings) (cycle : Nat) (clock : Nat → Nat) (startable : Bool)
    (ahead : Nat) : Act E H (Except GateError Unit) := do
  let name := settings.threadName cycle
  let bytes := name.toUTF8.toList
  match firstNull? bytes with
  | some index => throw (nullInThreadName bytes index)
  | none =>
      if startable then
        note (.started cycle)
        note (.line (.worker name) (Worker.startedLine cycle settings))
        dropWorker
        modify (·.setWorker (Worker.new settings cycle clock))
        letRun ahead
        return .ok ()
      else return .error (.workerStart .tryAgain)

end Act
end SurfaceGate
