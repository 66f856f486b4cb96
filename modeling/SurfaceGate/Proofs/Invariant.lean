import SurfaceGate.Proofs.Walk
import SurfaceGate.Proofs.Worker.Keeping

/-!
Invariants of sessions.

A session changes in a few ways only: something plain is written, the worker changes, the gate opens or
closes, it forgets a surface that the engine cannot have, or the engine answers a call that the gate admits.
What these uphold holds through the operations of a controller, whatever becomes of it, and with every
number of steps that the worker takes. Where a surface comes, the invariant has to bear the line that says
so.
-/

namespace SurfaceGate

/-- What an engine does at a call that it may fail at. -/
inductive Engine.Works (E : Engine) : Call E.Surface → Work E.State E.Effect Unit → Prop where
  | prepare (assets : AssetReader) (size : Extent) : Works E (.prepare size) (E.prepare assets size)
  | attach (surface : Option E.Surface) : Works E (.attach surface) (E.attach surface)
  | render : Works E .render E.render

/-- What an engine makes of a call that it cannot fail at. -/
inductive Engine.Hears (E : Engine) :
    Call E.Surface → (E.State → E.State × List (Deed E.Effect)) → Prop where
  | input (event : Input.Event) : Hears E (.input event) (E.input event)
  | finish : Hears E .finish E.finish

/-- What an engine answers to a call, and what it leaves. -/
inductive Engine.Answers (E : Engine) (e : E.State) :
    Call E.Surface → Outcome → Performance E.State E.Effect → Prop where
  | done {call : Call E.Surface} {work : Work E.State E.Effect Unit} {p : Performance E.State E.Effect}
      (works : E.Works call work) (answer : work ⟨e, []⟩ = .ok () p) : Answers E e call .ok p
  | failed {call : Call E.Surface} {work : Work E.State E.Effect Unit} {why : Failure}
      {p : Performance E.State E.Effect} (works : E.Works call work)
      (answer : work ⟨e, []⟩ = .error (.failed why) p) : Answers E e call (.failed why) p
  | panicked {call : Call E.Surface} {work : Work E.State E.Effect Unit} {panic : Panic}
      {p : Performance E.State E.Effect} (works : E.Works call work)
      (answer : work ⟨e, []⟩ = .error (.panicked panic) p) : Answers E e call (.panicked panic) p
  | heard {call : Call E.Surface} {work : E.State → E.State × List (Deed E.Effect)}
      (hears : E.Hears call work) : Answers E e call .ok ⟨(work e).1, (work e).2⟩

/-- What some work of an engine leaves, however it ends. -/
def leftBy {σ ε α : Type} : EStateM.Result Stop (Performance σ ε) α → Performance σ ε
  | .ok _ p | .error _ p => p

variable {E : Engine} {H α β : Type}

theorem stateOf_perform (thread : Thread) (call : Call E.Surface) (work : Work E.State E.Effect Unit)
    (s : Session E H) :
    ∃ outcome, stateOf (Act.perform thread call work s) =
      s.close thread call outcome (leftBy (work ⟨s.gate.engine, []⟩)) := by
  simp only [Act.perform]
  cases work ⟨s.gate.engine, []⟩ with
  | ok _ p => exact ⟨.ok, rfl⟩
  | error stop p =>
      cases stop with
      | failed why => exact ⟨.failed why, rfl⟩
      | panicked panic => exact ⟨.panicked panic, rfl⟩

theorem Preserves.look {I : Session E H → Prop} {f : Gate E → Act E H β}
    (next : ∀ g, Preserves I (f g)) : Preserves I (Act.gate >>= f) :=
  fun s => next s.gate s

/-- Every change of a session keeps the invariant. -/
structure Session.Stable (I : Session E H → Prop) : Prop where
  write : ∀ {s : Session E H} {entry : Entry E H}, entry.call? = none → I s → I (s.write entry)
  flags : ∀ {s : Session E H} (phase : Phase) (bound ready : Bool), I s →
    I { s with gate := { s.gate with phase, bound, ready } }
  worker : ∀ {s : Session E H} (worker : Option Worker), I s → I { s with worker }
  works : ∀ (thread : Thread) {call : Call E.Surface} {work : Work E.State E.Effect Unit},
    E.Works call work → Preserves I (Act.perform thread call work)
  hears : ∀ (thread : Thread) {call : Call E.Surface}
    {work : E.State → E.State × List (Deed E.Effect)}, E.Hears call work →
    Preserves I (Act.inform thread call work)

/-- The engine is prepared for such sizes only. -/
def Call.Fits {S : Type} (fits : Extent → Prop) : Call S → Prop
  | .prepare size => fits size
  | _ => True

/-- The session behind a call that the engine answered. -/
def Session.answered (s : Session E H) (thread : Thread) (call : Call E.Surface) (outcome : Outcome)
    (p : Performance E.State E.Effect) : Session E H :=
  { s with gate := { s.gate.noted call outcome with engine := p.state } }.write <|
    .call ⟨thread, call, p.deeds, outcome⟩

/-- An invariant that says how flags and engine go together, as long as the engine is prepared for certain
sizes only. -/
structure Session.Upheld (fits : Extent → Prop) (I : Session E H → Prop) : Prop where
  write : ∀ {s : Session E H} {entry : Entry E H}, entry.Plain → I s → I (s.write entry)
  worker : ∀ {s : Session E H} (worker : Option Worker), I s → I { s with worker }
  ready : ∀ {s : Session E H} (ready : Bool), I s → I { s with gate := { s.gate with ready } }
  unbind : ∀ {s : Session E H}, s.gate.phase ≠ .prepared → I s →
    I { s with gate := { s.gate with bound := false } }
  called : ∀ {s : Session E H} (thread : Thread) {call : Call E.Surface} {outcome : Outcome}
    {p : Performance E.State E.Effect}, call.Fits fits → s.gate.Admits call →
    E.Answers s.gate.engine call outcome p → I s → I (s.answered thread call outcome p)

theorem Session.Stable.upheld {I : Session E H → Prop} (stable : Stable I) (fits : Extent → Prop) :
    Upheld fits I where
  write plain := stable.write plain.uncalled
  worker := stable.worker
  ready {s} ready := stable.flags s.gate.phase s.gate.bound ready
  unbind {s} _ := stable.flags s.gate.phase false s.gate.ready
  called {s} thread call outcome p _ _ answers holds := by
    have closed : I (s.close thread call outcome p) := by
      cases answers with
      | heard hears => exact stable.hears thread hears s holds
      | done works answer | failed works answer | panicked works answer =>
          have left := stable.works thread works s holds
          rwa [Act.perform, answer] at left
    exact stable.flags (s.gate.noted call outcome).phase (s.gate.noted call outcome).bound
      (s.gate.noted call outcome).ready closed

theorem Session.Upheld.and {fits : Extent → Prop} {I J : Session E H → Prop} (one : Upheld fits I)
    (other : Upheld fits J) : Upheld fits fun s => I s ∧ J s where
  write plain := .imp (one.write plain) (other.write plain)
  worker worker := .imp (one.worker worker) (other.worker worker)
  ready ready := .imp (one.ready ready) (other.ready ready)
  unbind unprepared := .imp (one.unbind unprepared) (other.unbind unprepared)
  called thread _ _ _ fit admitted answers :=
    .imp (one.called thread fit admitted answers) (other.called thread fit admitted answers)

/-- What the journal announces is left to the host. -/
theorem Session.upheld_tells (fits : Extent → Prop) (opened : Bool) :
    Upheld fits fun s : Session E H => s.journal.Tells opened where
  write plain tells := tells.cons plain.unopened plain.unchanged
  worker _ := id
  ready _ := id
  unbind _ := id
  called thread call outcome p _ _ _ tells := by
    refine Journal.Tells.cons tells (fun ⟨_, same⟩ => nomatch same) ?_
    rintro (⟨_, same⟩ | ⟨_, same⟩) <;> cases same

namespace Session.Upheld

variable {fits : Extent → Prop} {I : Session E H → Prop} (upheld : Upheld fits I)
include upheld

section Gates

theorem setReadiness (ready : Bool) : Preserves I (Act.setReadiness ready : Act E H Unit) :=
  .bind (.change fun _ => upheld.ready ready) fun _ =>
    .change fun _ => upheld.write (Entry.plain_of_unsaid rfl nofun)

/-- The engine answers a call in one of three ways; what is left to do behind it is to note the answer. -/
theorem perform {s s' : Session E H} (holds : I s) (thread : Thread) {call : Call E.Surface}
    {work : Work E.State E.Effect Unit} {f : Except Failure Unit → Act E H β} (works : E.Works call work)
    (fit : call.Fits fits) (admitted : s.gate.Admits call) (engine : s'.gate.engine = s.gate.engine)
    (done : ∀ p, stateOf (f (.ok ()) (s'.close thread call .ok p)) = s.answered thread call .ok p)
    (failed : ∀ why p, stateOf (f (.error why) (s'.close thread call (.failed why) p)) =
      s.answered thread call (.failed why) p)
    (panicked : ∀ panic p, s'.close thread call (.panicked panic) p =
      s.answered thread call (.panicked panic) p) :
    I (stateOf ((Act.perform thread call work >>= f) s')) := by
  have left {outcome : Outcome} {p : Performance E.State E.Effect}
      (answers : E.Answers s.gate.engine call outcome p) := upheld.called thread fit admitted answers holds
  simp only [Act.perform, bind, EStateM.bind, engine]
  rcases answer : work ⟨s.gate.engine, []⟩ with ⟨_, p⟩ | ⟨why | panic, p⟩
  · exact (done p).symm ▸ left (.done works answer)
  · exact (failed why p).symm ▸ left (.failed works answer)
  · change I (s'.close thread call (.panicked panic) p)
    exact (panicked panic p).symm ▸ left (.panicked works answer)

theorem prepare (thread : Thread) (assets : AssetReader) {size : Extent} (fit : fits size) :
    Preserves I (Gate.prepare thread assets size : Act E H _) := by
  intro s holds
  simp only [Gate.prepare]
  rw [Act.look]
  split
  · exact holds
  · next closed =>
      split
      · exact holds
      · next unfinished =>
          exact upheld.perform holds thread (.prepare assets size) fit
            ⟨eq_false_of_ne_true closed, unfinished⟩ rfl (fun _ => rfl) (fun _ _ => rfl) fun _ _ => rfl

theorem give (thread : Thread) (surface : E.Surface) :
    Preserves I (Gate.give thread surface : Act E H _) := by
  intro s holds
  simp only [Gate.give]
  rw [Act.look]
  split
  · exact holds
  · next closed =>
      split
      · next prepared =>
          exact upheld.perform holds thread (.attach (some surface)) trivial
            ⟨eq_false_of_ne_true closed, prepared⟩ rfl (fun _ => rfl) (fun _ _ => rfl) fun _ _ => rfl
      · exact holds

theorem takeBack (thread : Thread) : Preserves I (Gate.takeBack thread : Act E H _) := by
  intro s holds
  simp only [Gate.takeBack]
  rw [Act.look]
  split
  · exact holds
  · next closed =>
      rw [bind_of_ok (x := Act.setGate _) rfl]
      split
      · next prepared =>
          exact upheld.perform holds thread (.attach none) trivial
            ⟨eq_false_of_ne_true closed, prepared⟩ rfl (fun _ => rfl) (fun _ _ => rfl) fun _ _ => rfl
      · next unprepared => exact upheld.unbind unprepared holds

theorem allow : Preserves I (Gate.allow : Act E H _) :=
  .look fun _ => .branch (.bind (upheld.setReadiness true) fun _ => .pure _) (.pure _)

theorem forbid : Preserves I (Gate.forbid : Act E H _) :=
  .look fun _ => .bind (upheld.setReadiness false) fun _ => .pure _

theorem feed (thread : Thread) (event : Input.Event) :
    Preserves I (Gate.feed thread event : Act E H _) := by
  intro s holds
  simp only [Gate.feed]
  rw [Act.look]
  split
  · next ready => exact upheld.called thread trivial ready (.heard (.input event)) holds
  · exact holds

theorem finish (thread : Thread) : Preserves I (Gate.finish thread : Act E H _) := by
  intro s holds
  simp only [Gate.finish]
  rw [Act.look]
  split
  · exact holds
  · next closed =>
      split
      · next prepared =>
          have admitted : s.gate.Admits .finish := ⟨eq_false_of_ne_true closed, prepared⟩
          have fit : (Call.finish : Call E.Surface).Fits fits := trivial
          exact upheld.called thread fit admitted (.heard .finish) holds
      · exact holds

end Gates

theorem outlasts : Outlasts I where
  worker := upheld.worker
  draws name outcome p ready drawn := by
    have fit : (Call.render : Call E.Surface).Fits fits := trivial
    refine upheld.called _ fit ready ?_
    cases drawn with
    | done answer => exact .done .render answer
    | @broke stop _ answer =>
        cases stop with
        | failed why => exact .failed .render answer
        | panicked panic => exact .panicked .render answer
  speaks _ _ := upheld.write (Entry.plain_of_unsaid rfl nofun)
  started _ := upheld.write (Entry.plain_of_unsaid rfl nofun)
  joined _ _ := upheld.write (Entry.plain_of_unsaid rfl nofun)
  died w panic := upheld.write (Entry.plain_of_start (by simp [Entry.starts, toString]))

theorem steps (n : Nat) {s : Session E H} (holds : I s) : I (s.steps n) :=
  upheld.outlasts.keeps.steps n holds

end Session.Upheld

/-- A controller whose session has a property. -/
def Controller.On (I : Session E H → Prop) (c : Controller E H) : Prop :=
  I c.session

/-- A controller with certain settings, whose session has a property. -/
def Controller.Under (settings : RenderSettings) (I : Session E H → Prop) (c : Controller E H) : Prop :=
  c.settings = settings ∧ I c.session

theorem Controller.preserves_on {I : Session E H → Prop} {x : Control E H α}
    (kept : ∀ settings, Preserves (Under settings I) x) : Preserves (On I) x :=
  fun c holds => (kept c.settings c ⟨rfl, holds⟩).2

namespace Session.Upheld

open Controller (Under)

variable {fits : Extent → Prop} {I : Session E H → Prop} {settings : RenderSettings}

theorem onSession {x : Act E H α} (kept : Preserves I x) :
    Preserves (Under settings I) (Control.onSession x) := by
  intro c ⟨same, holds⟩
  have after := kept c.session holds
  simp only [Control.onSession]
  cases hx : x c.session with
  | ok a s | error panic s =>
      rw [hx] at after
      exact ⟨same, after⟩

variable (upheld : Upheld fits I)
include upheld

theorem log {level : Log.Level} {text : String} (plain : (.line .host ⟨level, text⟩ : Entry E H).Plain) :
    Preserves (Under settings I) (Control.log level text : Control E H Unit) :=
  onSession (.change fun _ => upheld.write plain)

theorem refuse {violation : Violation} (other : violation.message ≠ Violation.adoptAfterEnd.message) :
    Preserves (Under settings I) (Control.refuse violation : Control E H (Except GateError α)) :=
  .read fun c => .bind (upheld.log (Entry.plain_of_refusal c.stage other)) fun _ => .pure _

theorem moves : Control.Moves (Under settings I : Controller E H → Prop) where
  write quiet := .imp_right (upheld.write quiet.plain)
  rested n := .imp_right (upheld.steps n)
  staged _ := id
  joined := .imp_right upheld.outlasts.takeWorker
  ended _ := id

theorem giveUpSurface :
    Preserves (Under settings I) (Control.giveUpSurface : Control E H Unit) := by
  refine .bind (onSession (upheld.takeBack .host)) fun answer => ?_
  have letGo : Preserves (Under settings I)
      (modify ({ · with surface := none, size := none }) : Control E H Unit) :=
    .change fun _ holds => holds
  cases answer with
  | error error => exact .bind (upheld.log (Entry.plain_of_error error)) fun _ => letGo
  | ok _ => exact letGo

theorem dismantles :
    Control.Dismantles (Under settings I : Controller E H → Prop) (Under settings I) where
  before := upheld.moves
  behind := upheld.moves
  shut {c} := .imp_right (upheld.forbid c.session)
  weaken := id
  givenUp := upheld.giveUpSurface
  forgot := id

theorem attends : Control.Attends (Under settings I : Controller E H → Prop) where
  toRemarks := upheld.moves.toRemarks
  pointed _ := id
  fed event := onSession (upheld.feed .host event)
  dropped := id
  dismantled k c _ := upheld.dismantles.dismantle k c
  workerDropped := onSession upheld.outlasts.dropWorker

theorem startRendering (k : Conditions) :
    Preserves (Under settings I) (Control.startRendering k : Control E H _) := by
  refine .bind (onSession upheld.allow) fun allowed => ?_
  cases allowed with
  | error error => exact .bind (upheld.dismantles.abandonCycle k) fun _ => .pure _
  | ok _ =>
      refine .bind (.change fun _ holds => holds) fun _ => .read fun c => ?_
      refine .bind (onSession (upheld.outlasts.startWorker _ _ _ _ _)) fun started => ?_
      cases started with
      | error error =>
          refine .bind (upheld.log (Entry.plain_of_error error)) fun _ => upheld.dismantles.behindGate k ?_
          exact .bind (upheld.dismantles.abandonCycle k) fun _ => .pure _
      | ok _ => exact .bind (upheld.moves.moveTo _) fun _ => .pure _

theorem beginCycle (k : Conditions) {size : Extent} (fit : fits size) (surface : E.Surface)
    (assets : AssetReader) :
    Preserves (Under settings I) (Control.beginCycle k size surface assets : Control E H _) := by
  have fails (error : GateError) : Preserves (Under settings I) (do
      Control.log .error error.message
      Control.abandonCycle k
      return .error error : Control E H (Except GateError Unit)) :=
    .bind (upheld.log (Entry.plain_of_error error)) fun _ =>
      .bind (upheld.dismantles.abandonCycle k) fun _ => .pure _
  refine .bind (upheld.moves.moveTo _) fun _ => .bind (onSession (upheld.prepare .host assets fit))
    fun prepared => ?_
  cases prepared with
  | error error => exact fails error
  | ok _ =>
      refine .bind (upheld.moves.moveTo _) fun _ => .bind (onSession (upheld.give .host surface))
        fun given => ?_
      cases given with
      | error error => exact fails error
      | ok _ => exact .bind (.change fun _ holds => holds) fun _ => upheld.startRendering k

theorem finishEngine :
    Preserves (Under settings I) (Control.finishEngine : Control E H (Except GateError Unit)) := by
  refine .read fun c => .branch (upheld.refuse (by decide)) (.bind (onSession (upheld.finish .host))
    fun answer => ?_)
  cases answer with
  | error error => exact .pure _
  | ok called =>
      have ended : Preserves (Under settings I) (do
          modify ({ · with ended := true })
          return .ok () : Control E H (Except GateError Unit)) :=
        .bind (.change fun _ holds => holds) fun _ => .pure _
      cases called with
      | false => exact ended
      | true =>
          refine .read fun d => .bind (upheld.log (Entry.plain_of_start ?_)) fun _ => ended
          simp [Entry.starts, toString]

/-- That a surface comes has to be borne by the invariant. -/
theorem adopt (changes : ∀ {s : Session E H} {entry : Entry E H}, entry.Changes → I s → I (s.write entry))
    (k : Conditions) {size : Extent} (fit : fits size) (surface : E.Surface) (assets : AssetReader) :
    Preserves (Under settings I) (Controller.adopt k size surface assets : Control E H _) := by
  have begins : Preserves (Under settings I) (Control.beginCycle k size surface assets : Control E H _) :=
    upheld.beginCycle k fit surface assets
  have announced {level : Log.Level} {text : String}
      (change : (.line .host ⟨level, text⟩ : Entry E H).Changes) :
      Preserves (Under settings I) (Control.log level text : Control E H Unit) :=
    onSession (.change fun _ => changes change)
  have refused : Preserves (Under settings I)
      (Control.refuse .adoptAfterEnd : Control E H (Except GateError Unit)) :=
    .read fun c => .bind (announced (.inr ⟨c.stage, rfl⟩)) fun _ => .pure _
  refine .read fun c => .branch refused (.perhaps (upheld.moves.remark _ (by decide)) ?_)
  refine .bind (announced (.inl ⟨size, rfl⟩)) fun _ => ?_
  cases c.stage with
  | idle => exact begins
  | ready =>
      refine .bind (upheld.moves.remark _ (by decide)) fun _ => upheld.dismantles.behindGate k ?_
      exact .bind (upheld.moves.endWorker k) fun _ => begins
  | preparing | binding | dismantling => exact upheld.refuse (by decide)

theorem closeActivity (k : Conditions) :
    Preserves (Under settings I) (Controller.closeActivity k : Control E H _) := by
  refine .bind (upheld.log (Entry.plain_of_start (by decide))) fun _ => .read fun c => ?_
  exact .branch (.bind (upheld.moves.remark _ (by decide)) fun _ => .pure _)
    (.perhaps (upheld.dismantles.dismantle k) upheld.finishEngine)

end Session.Upheld

namespace Session.Stable

open Controller (preserves_on)

variable {I : Session E H → Prop} (stable : Stable I)
include stable

/-- An invariant that every change keeps does not care for the sizes. -/
theorem everywhere : Upheld (fun _ => True) I :=
  stable.upheld _

theorem note {entry : Entry E H} (silent : entry.call? = none) :
    Preserves (Controller.On I) (Control.onSession (Act.note entry) : Control E H Unit) :=
  fun _ => stable.write silent

theorem serves : Control.Serves (Controller.On I : Controller E H → Prop) where
  write quiet := stable.write quiet.plain.uncalled
  rested n := stable.everywhere.steps n
  pointed _ := id
  fed event := preserves_on fun _ => stable.everywhere.attends.fed event
  dropped := id
  dismantled k c _ holds := preserves_on (fun _ => stable.everywhere.dismantles.dismantle k) c holds
  workerDropped := preserves_on fun _ => stable.everywhere.attends.workerDropped
  told uncalled _ := stable.write uncalled
  supported := id

theorem adopt (k : Conditions) (size : Extent) (surface : E.Surface) (assets : AssetReader) :
    Preserves (Controller.On I) (Controller.adopt k size surface assets : Control E H _) :=
  preserves_on fun _ => stable.everywhere.adopt (fun changes => stable.write changes.uncalled) k trivial
    surface assets

theorem closeActivity (k : Conditions) :
    Preserves (Controller.On I) (Controller.closeActivity k : Control E H _) :=
  preserves_on fun _ => stable.everywhere.closeActivity k

/-- An invariant of sessions holds in every run of a controller. -/
theorem run {c : Controller E H} (holds : c.On I) (turns : List (Turn E.Surface H)) : (c.run turns).On I :=
  stable.serves.run stable.adopt stable.closeActivity holds turns

end Session.Stable
end SurfaceGate
