import SurfaceGate.Proofs.Gate.Requests
import SurfaceGate.Proofs.Notices

/-!
The operations of a controller, by the kinds of their changes.

An operation changes a controller in a row of small changes: lines are written, the worker takes steps and is
joined, the stage moves, the gate closes, the pointers follow. What kinds of changes an operation makes is told
here once. A property that bears these changes holds behind the operation, wherever a panic ends it, and so does
one that holds again once the gate is closed.
-/

namespace SurfaceGate.Control

open Controller

variable {E : Engine} {H α : Type}

/-- The host writes what is quiet, and the worker takes steps. -/
structure Remarks (P : Controller E H → Prop) : Prop where
  write : ∀ {c : Controller E H} {entry : Entry E H}, entry.Quiet → P c →
    P { c with session := c.session.write entry }
  rested : ∀ {c : Controller E H} (n : Nat), P c → P (c.rested n)

/-- A cycle moves from stage to stage, and its worker is joined. -/
structure Moves (P : Controller E H → Prop) : Prop extends Remarks P where
  staged : ∀ {c : Controller E H} (stage : Stage), P c → P { c with stage }
  joined : ∀ {c : Controller E H}, P c → P { c with session := c.session.takeWorker.2 }
  ended : ∀ {c : Controller E H} (lastEnding : Option Ending), P c → P { c with lastEnding }

/-- Behind the gate, when it is closed, another property holds, and there the surface is given up. -/
structure Dismantles (P Q : Controller E H → Prop) : Prop where
  before : Moves P
  behind : Moves Q
  shut : ∀ {c : Controller E H}, P c → Q { c with session := c.session.setReady false }
  weaken : ∀ {c : Controller E H}, Q c → P c
  givenUp : Preserves Q (giveUpSurface : Control E H Unit)
  forgot : ∀ {c : Controller E H}, Q c → Q { c with pointers := .empty }

/-- The host tells of input, and of a surface that goes. -/
structure Attends (P : Controller E H → Prop) : Prop extends Remarks P where
  pointed : ∀ {c : Controller E H} (pointers : Input.Pointers), P c → P { c with pointers }
  fed : ∀ event : Input.Event, Preserves P (onSession (Gate.feed .host event) : Control E H Bool)
  dropped : ∀ {c : Controller E H}, P c → P { c with dropped := c.dropped + 1 }
  dismantled : ∀ (k : Conditions) {c : Controller E H}, c.stage = .ready → P c → P (stateOf (dismantle k c))
  workerDropped : Preserves P (onSession Act.dropWorker : Control E H Unit)

/-- The host announces something, and is asked for its support. -/
structure Serves (P : Controller E H → Prop) : Prop extends Attends P where
  told : ∀ {c : Controller E H} {entry : Entry E H}, entry.call? = none → ¬entry.Accuses → P c →
    P { c with session := c.session.write entry }
  supported : ∀ {c : Controller E H}, P c → P { c with supported := true }

variable {P Q : Controller E H → Prop}

namespace Remarks

variable (remarks : Remarks P)
include remarks

theorem note {entry : Entry E H} (quiet : entry.Quiet) :
    Preserves P (onSession (Act.note entry) : Control E H Unit) :=
  fun _ => remarks.write quiet

theorem remark {level : Log.Level} (text : String) (other : level ≠ .info ∧ level ≠ .error) :
    Preserves P (Control.log level text : Control E H Unit) :=
  remarks.note (Entry.quiet_of_level other.1 other.2)

theorem letRun (k : Conditions) (moment : Moment) :
    Preserves P (Control.letRun k moment : Control E H Unit) :=
  fun _ => remarks.rested _

end Remarks

namespace Moves

variable (moves : Moves P)
include moves

theorem enter (next : Stage) : Preserves P (Control.enter next : Control E H Unit) :=
  .read fun _ => .bind (moves.note (Entry.quiet_of_unsaid rfl nofun)) fun _ =>
    .change fun _ => moves.staged next

theorem moveTo (next : Stage) : Preserves P (Control.moveTo next : Control E H Unit) :=
  .read fun _ => .branch (.bind (moves.remark _ (by decide)) fun _ => moves.enter next) (.throw _)

theorem endWorker (k : Conditions) : Preserves P (Control.endWorker k : Control E H Unit) := by
  have joins : Preserves P (onSession Act.joinWorker : Control E H _) := fun _ => moves.joined
  refine .bind (moves.letRun k _) fun _ => .bind joins fun joined => ?_
  cases joined with
  | none => exact .pure _
  | some worker => exact .bind (moves.remark _ (by decide)) fun _ => .change fun _ => moves.ended _

end Moves

namespace Dismantles

variable (dismantles : Dismantles P Q)
include dismantles

/-- Behind a gate that was just closed. -/
theorem behindGate (k : Conditions) {f : Unit → Control E H α} (next : Preserves Q (f ())) :
    Preserves P (closeGate k >>= f) := by
  intro c holds
  have shut : Q (stateOf (closeGate k c)) := dismantles.shut (dismantles.before.rested _ holds)
  exact dismantles.weaken (next _ shut)

theorem abandonCycle (k : Conditions) : Preserves Q (Control.abandonCycle k : Control E H Unit) :=
  .bind (dismantles.behind.endWorker k) fun _ => .bind dismantles.givenUp fun _ =>
    dismantles.behind.enter .idle

theorem dismantle (k : Conditions) : Preserves P (Control.dismantle k : Control E H Unit) := by
  have moves := dismantles.behind
  refine .bind (dismantles.before.moveTo _) fun _ => dismantles.behindGate k ?_
  refine .bind (moves.endWorker k) fun _ => .bind dismantles.givenUp fun _ => .read fun c => ?_
  refine .bind (.change fun _ => dismantles.forgot) fun _ => ?_
  exact .perhaps (moves.remark _ (by decide)) (moves.moveTo _)

end Dismantles

namespace Attends

variable (attends : Attends P)
include attends

theorem deliver (k : Conditions) (events : List Input.Event) (index : Nat) :
    Preserves P (Control.deliver k index events : Control E H Nat) := by
  induction events generalizing index with
  | nil => exact .pure 0
  | cons event rest ih =>
      refine .bind (attends.letRun k _) fun _ => .bind (attends.fed event) fun delivered => ?_
      have others (n : Nat) : Preserves P
          (do return n + (← Control.deliver k (index + 1) rest) : Control E H Nat) :=
        .bind (ih (index + 1)) fun _ => .pure _
      cases delivered with
      | false =>
          refine .bind (.change fun _ => attends.dropped) fun _ => ?_
          exact .bind (attends.remark _ (by decide)) fun _ => others 0
      | true => exact others 1

/-- What is said about a batch is a remark. -/
theorem logAll (p : Input.Pointers) (batch : Input.Motion) :
    Preserves P
      ((p.absorb batch).lines.forM fun line => Control.log line.level line.text : Control E H PUnit) := by
  have remarks : ∀ line ∈ (p.absorb batch).lines, line.level ≠ .info ∧ line.level ≠ .error := by
    simp only [Input.Pointers.absorb, Input.Pointers.goDown, Input.Pointers.goUp, Input.missingSample]
    grind
  generalize (p.absorb batch).lines = lines at remarks
  induction lines with
  | nil => exact .pure _
  | cons line rest ih =>
      obtain ⟨other, others⟩ := List.forall_mem_cons.mp remarks
      exact .bind (attends.remark _ other) fun _ => ih others

theorem motion (k : Conditions) (batch : Input.Motion) :
    Preserves P (Controller.motion k batch : Control E H Nat) :=
  .read fun c => .bind (.change fun _ => attends.pointed _) fun _ => .bind (attends.logAll c.pointers batch)
    fun _ => attends.deliver k _ 0

theorem key (k : Conditions) (pressed : Input.Key) :
    Preserves P (Controller.key k pressed : Control E H Bool) := by
  unfold Controller.key
  cases pressed.event? with
  | none => exact .pure false
  | some event => exact .bind (attends.deliver k [event] 0) fun _ => .pure _

theorem release (k : Conditions) : Preserves P (Controller.release k : Control E H Unit) := by
  have said : Preserves P (Control.log .info "surface destroyed" : Control E H Unit) :=
    attends.note (Entry.quiet_of_start (by decide) nofun)
  refine .bind said fun _ c holds => ?_
  rw [get_bind]
  split
  · next ready => exact attends.dismantled k ready holds
  · exact attends.remark _ (by decide) c holds

theorem discard (k : Conditions) : Preserves P (Controller.discard k : Control E H Unit) := by
  intro c holds
  simp only [Controller.discard]
  rw [get_bind]
  split
  · next ready =>
      -- The warning leaves the stage as it is.
      rw [bind_of_ok (x := Control.log .warn _) rfl]
      refine stateOf_bind_of (R := fun c d => P c → P d) (fun first next => next ∘ first)
        (attends.dismantled k ready) (fun _ d _ => attends.workerDropped d) ?_
      exact attends.write (Entry.quiet_of_level nofun nofun) holds
  · exact attends.workerDropped c holds

end Attends

namespace Serves

variable (serves : Serves P)
include serves

theorem say {level : Log.Level} {text : String} (fair : ¬(.line .host ⟨level, text⟩ : Entry E H).Accuses) :
    Preserves P (Control.log level text : Control E H Unit) :=
  fun _ => serves.told rfl fair

theorem expect : Preserves P (Controller.expect : Control E H Unit) :=
  serves.say (Entry.not_accuses_of_level nofun)

theorem conduct (conduct : Conduct H α) : Preserves P (conduct.perform : Control E H α) := by
  have noted (deed : H) : Preserves P (onSession (Act.note (.host deed)) : Control E H Unit) :=
    serves.note (Entry.quiet_of_unsaid rfl nofun)
  refine .bind (.all noted conduct.deeds) fun _ => ?_
  cases conduct.answer with
  | ok a => exact .pure a
  | error panic => exact .throw panic

theorem openActivity (host : HostConduct H) :
    Preserves P (Controller.openActivity (E := E) (H := H) host.support : Control E H Unit) := by
  have greeted : Preserves P (onSession Gate.greeting : Control E H String) := fun _ holds => holds
  have supported : Preserves P (modify ({ · with supported := true }) : Control E H Unit) :=
    fun _ => serves.supported
  refine .bind greeted fun _ => .bind (serves.say (Entry.not_accuses_of_level nofun)) fun _ => ?_
  refine .bind (serves.conduct host.fillScreen) fun _ => .bind (serves.conduct host.startSound) fun sound => ?_
  cases sound with
  | error why => exact .bind (serves.remark _ (by decide)) fun _ => supported
  | ok _ => exact supported

variable (adopts : ∀ k size surface assets, Preserves P (Controller.adopt k size surface assets : Control E H _))
  (closes : ∀ k, Preserves P (Controller.closeActivity k : Control E H _))
include adopts closes

theorem report (k : Conditions) (report : Report E.Surface) :
    Preserves P (Controller.report k report : Control E H _) := by
  cases report with
  | appeared => exact .bind serves.expect fun _ => .pure _
  | sized size surface assets => exact adopts k size surface assets
  | vanished => exact .bind (serves.release k) fun _ => .pure _
  | ended => exact closes k
  | motion batch => exact .bind (serves.motion k batch) fun _ => .pure _
  | key pressed => exact .bind (serves.key k pressed) fun _ => .pure _

theorem call (k : Conditions) (call : HostCall E.Surface H) :
    Preserves P (call.perform k : Control E H Answer) := by
  cases call with
  | opened host => exact .bind (serves.openActivity host) fun _ => .pure _
  | focused host hasFocus =>
      cases hasFocus with
      | false => exact .pure _
      | true => exact .bind (serves.conduct host.fillScreen) fun _ => .pure _
  | appeared => exact .bind serves.expect fun _ => .pure _
  | sized size surface assets => exact .bind (adopts k size surface assets) fun _ => .pure _
  | vanished => exact .bind (serves.release k) fun _ => .pure _
  | ended => exact .bind (closes k) fun _ => .pure _
  | motion batch => exact .bind (serves.motion k batch) fun _ => .pure _
  | key pressed => exact .bind (serves.key k pressed) fun _ => .pure _
  | reported told => exact .bind (serves.report adopts closes k told) fun _ => .pure _
  | discarded => exact .bind (serves.discard k) fun _ => .pure _

/-- A run of a controller keeps what its calls keep. -/
theorem run {c : Controller E H} (holds : P c) (turns : List (Turn E.Surface H)) : P (c.run turns) := by
  induction turns generalizing c with
  | nil => exact holds
  | cons turn later ih =>
      refine ih ?_
      cases turn with
      | called k call => exact serves.call adopts closes k call c holds
      | worked steps => exact serves.rested steps holds

end Serves
end SurfaceGate.Control
