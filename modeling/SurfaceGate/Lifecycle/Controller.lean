import SurfaceGate.Input.Pointers
import SurfaceGate.Lifecycle.Report
import SurfaceGate.Worker.Loop

/-!
The controller of the surface lifecycle.

The controller hears of the host's surface and decides when the engine is prepared, given the
surface, rendered and finished. A bind cycle begins when the surface has a size and ends when the
surface goes, when a new one comes, or when a step of the cycle fails. At the end of a cycle the
gate is closed, the worker is stopped and joined, and the surface is taken from the engine, in this
order. The engine is finished once, when the activity ends.

Every call takes the `Conditions` under which it runs: whether the system starts a thread, how far the
worker comes at each moment, and what the clock shows a worker that is started. The lifecycle depends on
the first alone.
-/

namespace SurfaceGate

/-- Moments of a call at which the worker may take steps of its own. -/
inductive Moment where
  /-- Before the gate is closed. -/
  | closing
  /-- Between that and the request to stop. -/
  | stopping
  /-- Behind the start of the worker's thread. -/
  | started
  /-- Before the gate is asked to take the event with an index. -/
  | event (index : Nat)
  deriving DecidableEq, Repr

/-- What the host does not decide about a call. -/
structure Conditions where
  startable : Bool
  pace : Moment → Nat
  /-- What the clock shows, in nanoseconds, at the rests of a worker that is started. -/
  clock : Nat → Nat

/-- Threads start, the worker runs only while the controller waits for it, and no time goes by. -/
def Conditions.calm : Conditions where
  startable := true
  pace _ := 0
  clock _ := 0

structure Controller (E : Engine) (H : Type) where
  settings : RenderSettings
  session : Session E H
  stage : Stage
  surface : Option E.Surface
  size : Option Extent
  pointers : Input.Pointers
  supported : Bool
  ended : Bool
  cycles : Nat
  /-- Why the worker joined last had ended. -/
  lastEnding : Option Ending
  /-- Events that found the gate closed. -/
  dropped : Nat

def Controller.new {E : Engine} {H : Type} (engine : E.State) (settings : RenderSettings) :
    Controller E H where
  settings := settings
  session := Session.new engine
  stage := .idle
  surface := none
  size := none
  pointers := Input.Pointers.empty
  supported := false
  ended := false
  cycles := 0
  lastEnding := none
  dropped := 0

/-- Steps on a controller; a panic keeps the controller it leaves. -/
abbrev Control (E : Engine) (H α : Type) := EStateM Panic (Controller E H) α

namespace Control

variable {E : Engine} {H : Type}

def onSession {α : Type} (act : Act E H α) : Control E H α := fun c =>
  match act c.session with
  | .ok a session => .ok a { c with session }
  | .error panic session => .error panic { c with session }

instance : MonadLift (Act E H) (Control E H) := ⟨onSession⟩

def log (level : Log.Level) (text : String) : Control E H Unit :=
  onSession (Act.log .host level text)

def enter (next : Stage) : Control E H Unit := do
  onSession (Act.note (.moved (← get).stage next))
  modify ({ · with stage := next })

def moveTo (next : Stage) : Control E H Unit := do
  let stage := (← get).stage
  if stage.allows next then
    log .trace s!"lifecycle {stage.shown} -> {next.shown}"
    enter next
  else throw (.text s!"illegal transition {stage.shown} -> {next.shown}")

def refuse {α : Type} (violation : Violation) : Control E H (Except GateError α) := do
  log .error s!"ordering violation in state {(← get).stage.shown}: {violation.message}"
  return .error (.ordering violation)

def letRun (k : Conditions) (moment : Moment) : Control E H Unit :=
  onSession (Act.letRun (k.pace moment))

/-- Closes the gate; an attempt at a frame that comes later finds it closed. -/
def closeGate (k : Conditions) : Control E H Unit := do
  letRun k .closing
  let _ ← onSession Gate.forbid

def endWorker (k : Conditions) : Control E H Unit := do
  letRun k .stopping
  match ← onSession Act.joinWorker with
  | none => return
  | some (worker, ending) =>
      log .debug s!"bind cycle {worker.cycle} worker joined ({ending.shown})"
      modify ({ · with lastEnding := some ending })

/-- Takes the surface from the engine and lets go of it. The engine's failure is only noted: the
surface is gone either way. -/
def giveUpSurface : Control E H Unit := do
  match ← onSession (Gate.attach .host none) with
  | .error error => log .error error.message
  | .ok () => pure ()
  modify ({ · with surface := none, size := none })

/-- Ends a cycle that did not come up. The map of pointers stays. -/
def abandonCycle (k : Conditions) : Control E H Unit := do
  endWorker k
  giveUpSurface
  enter .idle

/-- Ends the cycle of a ready surface. The pointers that are down are forgotten; the engine hears
nothing of them. -/
def dismantle (k : Conditions) : Control E H Unit := do
  moveTo .dismantling
  closeGate k
  endWorker k
  giveUpSurface
  let lost := (← get).pointers.count
  modify ({ · with pointers := Input.Pointers.empty })
  if lost ≠ 0 then
    log .debug s!"{lost} pointers were down at teardown; gesture lost"
  moveTo .idle

def startRendering (k : Conditions) : Control E H (Except GateError Unit) := do
  match ← onSession Gate.allow with
  | .error error =>
      abandonCycle k
      return .error error
  | .ok () =>
      modify fun c => { c with cycles := c.cycles + 1 }
      let c ← get
      match ← onSession (Act.startWorker c.settings c.cycles k.clock k.startable (k.pace .started)) with
      | .error error =>
          log .error error.message
          closeGate k
          abandonCycle k
          return .error error
      | .ok () =>
          moveTo .ready
          return .ok ()

/-- Brings a cycle up: prepares the engine, hands it the surface and starts to render. A failure
leaves nothing bound. -/
def beginCycle (k : Conditions) (size : Extent) (surface : E.Surface) (assets : AssetReader) :
    Control E H (Except GateError Unit) := do
  moveTo .preparing
  match ← onSession (Gate.prepare .host assets size) with
  | .error error =>
      log .error error.message
      abandonCycle k
      return .error error
  | .ok () =>
      moveTo .binding
      match ← onSession (Gate.attach .host (some surface)) with
      | .error error =>
          log .error error.message
          abandonCycle k
          return .error error
      | .ok () =>
          modify ({ · with surface := some surface, size := some size })
          startRendering k

def finishEngine : Control E H (Except GateError Unit) := do
  if (← get).session.worker.isSome then refuse .finishWithWorker
  else
    match ← onSession (Gate.finish .host) with
    | .error error => return .error error
    | .ok called =>
        if called then
          log .info s!"engine shut down after {(← get).cycles} bind cycles"
        modify ({ · with ended := true })
        return .ok ()

/-- Hands events to the gate, the first of them with an index. An event that finds the gate closed
is dropped. Answers how many reached the engine. -/
def deliver (k : Conditions) (index : Nat) : List Input.Event → Control E H Nat
  | [] => return 0
  | event :: rest => do
      letRun k (.event index)
      let delivered ← onSession (Gate.feed .host event)
      if !delivered then
        modify fun c => { c with dropped := c.dropped + 1 }
        log .trace s!"dropped {event.shown}: engine not ready"
      let others ← deliver k (index + 1) rest
      return (if delivered then 1 else 0) + others

end Control

namespace Controller

variable {E : Engine} {H : Type}

open Control

def openActivity {m : Type → Type} [Monad m] [MonadLiftT (Control E H) m]
    (host : HostSupport m) : m Unit := do
  let greeting ← (onSession Gate.greeting : Control E H String)
  (log .info s!"activity created; engine link: {greeting}" : Control E H Unit)
  host.fillScreen
  match ← host.startSound with
  | .error why =>
      (log .warn s!"audio bootstrap failed, continuing without audio: {why.message}" :
        Control E H Unit)
  | .ok () => pure ()
  (modify ({ · with supported := true }) : Control E H Unit)

/-- A host may leave the full screen when its window loses the focus. -/
def focus {m : Type → Type} [Monad m] (host : HostSupport m) (focused : Bool) : m Unit :=
  if focused then host.fillScreen else pure ()

/-- A surface without a size is of no use yet. -/
def expect : Control E H Unit :=
  log .info "surface created; waiting for dimensions"

/-- The surface has a size, or a new one. When the controller is ready, the worker of the current
cycle is ended first. -/
def adopt (k : Conditions) (size : Extent) (surface : E.Surface) (assets : AssetReader) :
    Control E H (Except GateError Unit) := do
  let c ← get
  if c.ended then refuse .adoptAfterEnd
  else
    if !c.supported then
      log .warn "surface changed before host setup was requested"
    log .info s!"surface changed: {size.width}x{size.height}"
    match c.stage with
    | .idle => beginCycle k size surface assets
    | .ready =>
        log .debug s!"rebinding; retiring bind cycle {c.cycles}"
        closeGate k
        endWorker k
        beginCycle k size surface assets
    | _ => refuse .adoptReentered

/-- The surface goes. When this returns nothing is rendered any more. -/
def release (k : Conditions) : Control E H Unit := do
  log .info "surface destroyed"
  let stage := (← get).stage
  if stage = .ready then dismantle k
  else log .debug s!"surface destroyed while {stage.shown}; nothing bound"

def closeActivity (k : Conditions) : Control E H (Except GateError Unit) := do
  log .info "activity destroyed"
  let c ← get
  if c.ended then
    log .debug "activity already destroyed"
    return .ok ()
  else
    if c.stage = .ready then dismantle k
    finishEngine

/-- A batch of pointers. The map of pointers follows it whether the gate is open or closed. Answers
how many events reached the engine. -/
def motion (k : Conditions) (batch : Input.Motion) : Control E H Nat := do
  let a := (← get).pointers.absorb batch
  modify ({ · with pointers := a.pointers })
  a.lines.forM fun line => log line.level line.text
  deliver k 0 a.events

/-- A key. Answers whether it reached the engine. -/
def key (k : Conditions) (pressed : Input.Key) : Control E H Bool := do
  match pressed.event? with
  | none => return false
  | some event => return (← deliver k 0 [event]) = 1

def report (k : Conditions) : Report E.Surface → Control E H (Except GateError Unit)
  | .appeared => do expect; return .ok ()
  | .sized size surface assets => adopt k size surface assets
  | .vanished => do release k; return .ok ()
  | .ended => closeActivity k
  | .motion batch => do let _ ← motion k batch; return .ok ()
  | .key pressed => do let _ ← key k pressed; return .ok ()

/-- The controller is given up. A ready surface is dismantled, but the engine is not finished; a
worker that is left for any other reason is stopped. -/
def discard (k : Conditions) : Control E H Unit := do
  if (← get).stage = .ready then
    log .warn "bridge dropped while ready; tearing down without engine shutdown"
    dismantle k
  onSession Act.dropWorker

/-- Whether the gate is open. -/
def isOpen (c : Controller E H) : Bool :=
  c.session.gate.ready

def holdsWorker (c : Controller E H) : Bool :=
  c.session.worker.isSome

/-- Whether frames are being rendered: not while `ready` if the worker has ended by itself. -/
def renders (c : Controller E H) : Bool :=
  c.session.worker.any fun w => w.running && !w.hasEnded

end Controller
end SurfaceGate
