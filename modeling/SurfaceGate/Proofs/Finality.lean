import SurfaceGate.Proofs.Adoption
import SurfaceGate.Proofs.Delivery
import SurfaceGate.Proofs.Outline.Closing
import SurfaceGate.Proofs.Walk

/-!
The end of an activity: from which states it comes, what it asks of the engine, and what is left behind
it.

Behind it the controller is idle, its gate is closed and it has no worker, so nothing a host may call for
reaches the engine any more. The pointers are still followed, and the events that they give rise to are
counted as dropped.
-/

namespace SurfaceGate

variable {E : Engine} {H α β : Type}

def Turn.closes {S : Type} : Turn S H → Bool
  | .called _ call => call.closes
  | .worked _ => false

namespace Session

theorem steps_of_free {s : Session E H} (free : s.worker = none) (n : Nat) : s.steps n = s := by
  induction n with
  | zero => rfl
  | succ n ih =>
      have still : s.step = s := by rw [step, free]
      exact (congrArg (steps n) still).trans ih

theorem takeWorker_eq_of_free {s : Session E H} (free : s.worker = none) : s.takeWorker = (none, s) := by
  have still : s.stopWorker = s := by
    obtain ⟨gate, worker, journal⟩ := s
    obtain rfl : worker = none := free
    rfl
  have halted : s.stopWorker.steps stepsToEnd = s := by rw [still, steps_of_free free]
  have gone : (s.stopWorker.steps stepsToEnd).worker = none := halted.symm ▸ free
  rw [takeWorker_of_free gone, halted]

end Session

namespace Controller

variable {c d e : Controller E H}

/-- The activity is over, and nothing of a cycle is left. -/
structure Over (c : Controller E H) : Prop where
  ended : c.ended = true
  stage : c.stage = .idle
  closed : c.isOpen = false
  free : c.session.worker = none

/-- From `c` to `d` nothing reaches the engine, and nothing else changes than the pointers, the count of
dropped events, what the host was asked for and the log. -/
structure Rests (c d : Controller E H) : Prop where
  settings : d.settings = c.settings
  gate : d.session.gate = c.session.gate
  worker : d.session.worker = c.session.worker
  calls : d.session.journal.calls = c.session.journal.calls
  stage : d.stage = c.stage
  surface : d.surface = c.surface
  size : d.size = c.size
  ended : d.ended = c.ended
  cycles : d.cycles = c.cycles
  lastEnding : d.lastEnding = c.lastEnding

instance : Spans (Rests : Controller E H → Controller E H → Prop) where
  refl _ := ⟨rfl, rfl, rfl, rfl, rfl, rfl, rfl, rfl, rfl, rfl⟩
  trans first second :=
    { settings := second.settings.trans first.settings
      gate := second.gate.trans first.gate
      worker := second.worker.trans first.worker
      calls := second.calls.trans first.calls
      stage := second.stage.trans first.stage
      surface := second.surface.trans first.surface
      size := second.size.trans first.size
      ended := second.ended.trans first.ended
      cycles := second.cycles.trans first.cycles
      lastEnding := second.lastEnding.trans first.lastEnding }

theorem Rests.hostCalls (rests : Rests c d) : d.hostCalls = c.hostCalls := by
  simp only [Controller.hostCalls, Journal.hostCalls, rests.calls]

theorem Over.rests (isOver : c.Over) (rests : Rests c d) : d.Over where
  ended := rests.ended.trans isOver.ended
  stage := rests.stage.trans isOver.stage
  closed := (congrArg Gate.ready rests.gate).trans isOver.closed
  free := rests.worker.trans isOver.free

/-- The activity was over in `c` and still is, and the controller rests. -/
structure RestsOver (c d : Controller E H) : Prop where
  isOver : d.Over
  rests : Rests c d

namespace RestsOver

theorem onward (before : RestsOver c d) (rests : Rests d e) : RestsOver c e :=
  ⟨before.isOver.rests rests, Spans.trans before.rests rests⟩

theorem write (before : RestsOver c d) {entry : Entry E H} (uncalled : entry.call? = none) :
    RestsOver c { d with session := d.session.write entry } :=
  before.onward ⟨rfl, rfl, rfl, List.filterMap_cons_none uncalled, rfl, rfl, rfl, rfl, rfl, rfl⟩

theorem log (level : Log.Level) (text : String) :
    Preserves (RestsOver c) (Control.log level text : Control E H Unit) :=
  fun _ before => before.write rfl

/-- Nothing happens at a closed gate that no worker waits for. -/
theorem onSession {x : Act E H α} (still : ∀ s : Session E H, s.gate.ready = false →
    s.worker = none → stateOf (x s) = s) : Preserves (RestsOver c) (Control.onSession x) := by
  intro d before
  have same := still d.session before.isOver.closed before.isOver.free
  have kept : stateOf (Control.onSession x d) = d := by
    simp only [Control.onSession]
    cases hx : x d.session with
    | ok a s | error panic s =>
        rw [hx] at same
        exact congrArg (fun session => { d with session }) same
  rwa [kept]

theorem feed (event : Input.Event) :
    Preserves (RestsOver c) (Control.onSession (Gate.feed .host event) : Control E H Bool) := by
  refine onSession fun s closed _ => ?_
  have withheld : Gate.feed .host event s = .ok false s := by
    change (if s.gate.ready then
        (do Act.inform .host (.input event) (E.input event); return true)
      else return false : Act E H Bool) s = _
    rw [if_neg (by simp [closed])]
    rfl
  rw [withheld]
  rfl

theorem dropWorker : Preserves (RestsOver c) (Control.onSession Act.dropWorker : Control E H Unit) := by
  refine onSession fun s _ free => ?_
  change s.takeWorker.2 = s
  rw [Session.takeWorker_eq_of_free free]

theorem serves : Control.Serves (RestsOver c) where
  write quiet before := before.write quiet.plain.uncalled
  rested {d} n before := by
    rw [rested, Session.steps_of_free before.isOver.free]
    exact before
  pointed _ before := before.onward ⟨rfl, rfl, rfl, rfl, rfl, rfl, rfl, rfl, rfl, rfl⟩
  fed := feed
  dropped before := before.onward ⟨rfl, rfl, rfl, rfl, rfl, rfl, rfl, rfl, rfl, rfl⟩
  dismantled _ _ ready before := nomatch before.isOver.stage.symm.trans ready
  workerDropped := dropWorker
  told uncalled _ before := before.write uncalled
  supported before := before.onward ⟨rfl, rfl, rfl, rfl, rfl, rfl, rfl, rfl, rfl, rfl⟩

/-- A new surface is refused. -/
theorem adopt (k : Conditions) (size : Extent) (surface : E.Surface) (assets : AssetReader) :
    Preserves (RestsOver c) (Controller.adopt k size surface assets : Control E H _) := by
  intro d before
  simp only [Controller.adopt]
  rw [get_bind, if_pos before.isOver.ended]
  exact Along.read (fun _ => .bind (log _ _) fun _ => .pure _) d before

theorem closeActivity (k : Conditions) :
    Preserves (RestsOver c) (Controller.closeActivity k : Control E H _) := by
  refine .bind (log _ _) fun _ d before => ?_
  rw [get_bind, if_pos before.isOver.ended]
  exact Along.bind (log _ _) (fun _ => .pure _) d before

end RestsOver

theorem Over.restsOver (isOver : c.Over) : RestsOver c c :=
  ⟨isOver, Spans.refl c⟩

theorem Over.run (isOver : c.Over) (turns : List (Turn E.Surface H)) : c.Rests (c.run turns) :=
  (RestsOver.serves.run RestsOver.adopt RestsOver.closeActivity isOver.restsOver turns).rests

theorem Sound.isOver (sound : c.Sound) (settled : ¬c.outline.Stranded) (ended : c.ended = true) :
    c.Over := by
  rcases sound.outline.stands with idle | live | stranded
  · exact ⟨ended, idle.stage, idle.closed, Option.map_eq_none_iff.mp idle.free⟩
  · exact nomatch ended.symm.trans (live.lasts sound.outline)
  · exact absurd stranded settled

/-- What the host is answered when the activity is over. -/
structure Answers (c : Controller E H) : Prop where
  adopt : ∀ k size surface assets, ∃ d,
    adopt k size surface assets c = .ok (.error (.ordering .adoptAfterEnd)) d
  closeActivity : ∀ k, ∃ d, closeActivity k c = .ok (.ok ()) d
  motion : ∀ k batch, ∃ d, motion k batch c = .ok 0 d
  key : ∀ k pressed, ∃ d, key k pressed c = .ok false d

def said (c : Controller E H) (level : Log.Level) (text : String) : Controller E H :=
  { c with session := c.session.write (.line .host ⟨level, text⟩) }

theorem closeActivity_of_ended (ended : c.ended = true) (k : Conditions) :
    closeActivity k c = .ok (.ok ())
      ((c.said .info "activity destroyed").said .debug "activity already destroyed") := by
  refine (bind_of_ok (t := c.said .info "activity destroyed") rfl).trans ?_
  refine (get_bind _ _).trans ?_
  rw [if_pos (show (c.said _ _).ended = true from ended)]
  rfl

theorem Over.answers (isOver : c.Over) (sound : c.Sound) : c.Answers where
  adopt k size surface assets := ⟨_, adopt_of_ended isOver.ended k size surface assets⟩
  closeActivity k := ⟨_, closeActivity_of_ended isOver.ended k⟩
  motion k batch := by
    obtain ⟨d, returned⟩ := sound.motion_returns k batch
    rw [isOver.closed] at returned
    exact ⟨d, returned⟩
  key k pressed := by
    obtain ⟨d, returned⟩ := sound.key_returns k pressed
    rw [isOver.closed] at returned
    exact ⟨d, returned⟩

/-- From `c` to `d` the activity ended, once and for all. -/
structure Ends (c d : Controller E H) : Prop where
  calls : ∃ taken : Outcome, taken.Returned ∧ d.hostCalls =
    if c.ended then c.hostCalls else closingCalls (c.stage = .ready) taken c.hostCalls
  isOver : d.Over
  rests : ∀ later, d.Rests (d.run later)
  answers : ∀ later, (d.run later).Answers

/-- The end of the activity answers that all is well. Only a panic of the engine keeps it from that, as
it gives the surface back. -/
def EndsOrPanics (c : Controller E H) :
    EStateM.Result Panic (Controller E H) (Except GateError Unit) → Prop
  | .ok answer d => answer = .ok () ∧ c.Ends d
  | .error panic d => c.ended = false ∧ c.stage = .ready ∧
      d.hostCalls = (.attach none, .panicked panic) :: c.hostCalls

theorem Over.ends (isOver : d.Over) (sound : d.Sound) {taken : Outcome} (returned : taken.Returned)
    (calls : d.hostCalls =
      if c.ended then c.hostCalls else closingCalls (c.stage = .ready) taken c.hostCalls) :
    c.Ends d where
  calls := ⟨taken, returned, calls⟩
  isOver := isOver
  rests := isOver.run
  answers later := (isOver.rests (isOver.run later)).answers (sound.run later)

theorem Sound.endsOrPanics (sound : c.Sound) (settled : ¬c.outline.Stranded) (k : Conditions) :
    c.EndsOrPanics (Controller.closeActivity k c) := by
  have after : (stateOf (Controller.closeActivity k c)).Sound := by
    have left := (sound.called k .ended).2
    rwa [HostCall.perform, stateOf_return] at left
  cases ended : c.ended with
  | true =>
      have isOver := sound.isOver settled ended
      have rests := (RestsOver.closeActivity k c isOver.restsOver).rests
      rw [closeActivity_of_ended ended] at after rests ⊢
      have returned : Outcome.ok.Returned := nofun
      refine ⟨rfl, (isOver.rests rests).ends after returned ?_⟩
      rw [if_pos ended]
      exact rests.hostCalls
  | false =>
      obtain ⟨plan, same, gated⟩ := sound.mirrored fun _ => Mirrors.closeActivity k
      have closed := sound.outline.closeActivity settled ended plan
      have steady := Outline.closeActivity_ends sound.outline plan
      have before : c.hostCalls = c.outline.history.calls := sound.gated.owned.hostCalls_eq
      rw [same] at closed steady
      cases h : Controller.closeActivity k c with
      | ok answer d =>
          rw [h] at closed steady gated after
          obtain ⟨answered, isOver, taken, returned, calls⟩ := closed
          have calm : ¬d.outline.Stranded := fun stranded => settled (steady.1.strands stranded)
          refine ⟨answered, (after.isOver calm isOver).ends after returned ?_⟩
          rw [if_neg (by simp [ended]), before]
          exact gated.owned.hostCalls_eq.trans calls
      | error panic d =>
          rw [h] at closed gated
          refine ⟨ended, closed.1, ?_⟩
          rw [before]
          exact gated.owned.hostCalls_eq.trans closed.2

/-- Only a call that ends the activity ends it. -/
theorem Sound.ended_run (sound : c.Sound) (settled : ¬c.outline.Stranded)
    (turns : List (Turn E.Surface H)) (returned : ∀ r ∈ c.transcript turns, Returns r) :
    (c.run turns).ended = (c.ended || turns.any Turn.closes) := by
  refine Sound.induction_run
    (P := fun c turns => (c.run turns).ended = (c.ended || turns.any Turn.closes))
    (fun c => by simp) ?_ ?_ sound settled turns returned
  · intro c d k call answer later sound settled returned ih
    have ended : d.ended = (c.ended || call.closes) :=
      congrArg Outline.Aside.ended (sound.heard settled returned)
    have left : c.turned (.called k call) = d := congrArg stateOf returned
    rw [run_cons, left, ih, ended, List.any_cons, Bool.or_assoc]
    rfl
  · intro c steps later ih
    exact ih

end Controller
end SurfaceGate
