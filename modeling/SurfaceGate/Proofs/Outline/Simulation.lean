import SurfaceGate.Proofs.Outline.Worker

/-!
The operations of a controller are mirrored by the operations on outlines.

One lemma stands for each operation, under the name of the operation. Where the worker may run the
outline stands still; where the engine answers, the plan gives the same answer, since it explains the
history that the answer goes into.
-/

namespace SurfaceGate

variable {E : Engine} {H : Type} {plan : Plan} {α β : Type}

namespace Control

theorem onSession_bind (x : Act E H α) (f : α → Act E H β) :
    onSession (x >>= f) = onSession x >>= fun a => onSession (f a) := by
  funext c
  cases hx : x c.session with
  | ok a s =>
      have first : onSession x c = .ok a { c with session := s } := by
        simp only [onSession, hx]
      rw [bind_of_ok first]
      simp only [onSession, bind_of_ok hx]
  | error panic s =>
      have first : onSession x c = .error panic { c with session := s } := by
        simp only [onSession, hx]
      rw [bind_of_error first]
      simp only [onSession, bind_of_error hx]

theorem onSession_ite {p : Prop} [Decidable p] (x y : Act E H α) :
    onSession (if p then x else y) = if p then onSession x else onSession y :=
  apply_ite onSession p x y

end Control

namespace Mirrors

open Control

/-- A step that always returns, given by what it does. -/
theorem step {x : Control E H PUnit} {g : Outline E.Surface → Outline E.Surface}
    (does : ∀ c, ∃ d, x c = .ok PUnit.unit d ∧ d.outline = g c.outline ∧
      c.session.journal <:+ d.session.journal ∧ (c.session.Gated → d.session.Gated)) :
    Mirrors plan x (modify g) where
  grows c := by
    obtain ⟨d, hd, -, grown, -⟩ := does c
    rw [hd]
    exact grown
  agrees c gated _ := by
    obtain ⟨d, hd, same, -, kept⟩ := does c
    rw [hd]
    exact ⟨congrArg (EStateM.Result.ok PUnit.unit) same.symm, kept gated⟩

/-- Nothing shows of a step on the session that leaves it unmoved. -/
theorem unmoved {x : Control E H PUnit} {f : Session E H → Session E H}
    (does : ∀ c, x c = .ok PUnit.unit { c with session := f c.session })
    (h : ∀ s, Session.Unmoved s (f s)) : Mirrors plan x (Pure.pure PUnit.unit) := by
  refine step (g := id) fun c => ⟨_, does c, ?_, (h c.session).journal, (h c.session).gated⟩
  have k := h c.session
  simp only [Controller.outline, k.phase, k.bound, k.ready, k.worker, k.history, id_eq]

theorem log (level : Log.Level) (text : String) :
    Mirrors plan (log level text : Control E H Unit) (Pure.pure ()) :=
  unmoved (fun _ => rfl) fun s => Session.Unmoved.line s .host ⟨level, text⟩

theorem letRun (k : Conditions) (moment : Moment) :
    Mirrors plan (letRun k moment : Control E H Unit) (Pure.pure ()) :=
  unmoved (fun _ => rfl) fun s => Session.Unmoved.steps (k.pace moment) s

theorem enter (next : Stage) :
    Mirrors plan (enter next : Control E H Unit) (modify (Outline.entered next)) :=
  step fun _ => ⟨_, rfl, rfl, List.suffix_cons _ _,
    fun g => ⟨⟨False.elim, g.frames⟩, g.ready_eq, g.unjoined, g.owned⟩⟩

theorem moveTo (next : Stage) :
    Mirrors plan (moveTo next : Control E H Unit) (Draft.moveTo next) := by
  refine read fun c => ?_
  by_cases allowed : c.stage.allows next = true
  · have onOutline : c.outline.stage.allows next = true := allowed
    simp only [allowed, onOutline, ↓reduceIte]
    exact silent (log _ _) (enter next)
  · have onOutline : ¬ c.outline.stage.allows next = true := allowed
    simp only [allowed, onOutline]
    exact throw _

theorem refuse (violation : Violation) :
    Mirrors plan (refuse violation : Control E H (Except GateError α)) (Draft.breach violation) :=
  look fun _ => silent (log _ _) (pure _)

theorem closeGate (k : Conditions) :
    Mirrors plan (closeGate k : Control E H Unit) (modify Outline.closed) := by
  refine silent (letRun k .closing) (step fun _ => ⟨_, rfl, rfl, List.suffix_cons _ _, fun g => ?_⟩)
  exact ⟨⟨False.elim, g.frames⟩, rfl, g.unjoined, g.owned⟩

theorem outline_joinWorker (c : Controller E H) :
    ∃ answer d, onSession Act.joinWorker c = .ok answer d ∧ d.outline = c.outline.retired ∧
      c.session.journal <:+ d.session.journal ∧ (c.session.Gated → d.session.Gated) := by
  have joins : onSession Act.joinWorker c =
      .ok c.session.takeWorker.1 { c with session := c.session.takeWorker.2 } := rfl
  cases held : c.session.worker with
  | none =>
      obtain ⟨t, taken, same⟩ := Session.takeWorker_none held
      rw [taken] at joins
      refine ⟨_, _, joins, ?_, same.journal, same.gated⟩
      simp [Controller.outline, Outline.retired, held, same.phase, same.bound, same.ready,
        same.worker, same.history]
  | some w =>
      obtain ⟨v, ending, t, taken, join⟩ := Session.takeWorker_some held
      rw [taken] at joins
      refine ⟨_, _, joins, ?_, join.journal, join.gated⟩
      simp [Controller.outline, Outline.retired, Outline.mark, held, join.phase, join.bound,
        join.ready, join.worker, join.history]

/-- The worker is taken away; nothing may show of what is done with the answer. -/
theorem joinWorker {f : Option (Worker × Ending) → Control E H PUnit}
    (next : ∀ answer, Mirrors plan (f answer) (Pure.pure PUnit.unit)) :
    Mirrors plan (onSession Act.joinWorker >>= f) (modify Outline.retired) := by
  refine ⟨fun c => ?_, fun c gated => ?_⟩
  · obtain ⟨answer, d, joins, -, grown, -⟩ := outline_joinWorker c
    rw [bind_of_ok joins]
    exact grown.trans ((next answer).grows d)
  · obtain ⟨answer, d, joins, same, -, kept⟩ := outline_joinWorker c
    rw [bind_of_ok joins]
    intro explained
    have agreed := (next answer).agrees d (kept gated) explained
    rw [same] at agreed
    exact agreed

theorem endWorker (k : Conditions) :
    Mirrors plan (endWorker k : Control E H Unit) (modify Outline.retired) := by
  refine silent (letRun k .stopping) (joinWorker fun answer => ?_)
  cases answer with
  | none => exact pure _
  | some answer => exact silent (log _ _) (change (fun _ => rfl) fun _ => rfl)

theorem dropWorker :
    Mirrors plan (onSession Act.dropWorker : Control E H Unit) (modify Outline.retired) :=
  joinWorker fun _ => pure _

/-- What is read off the gate may be read off the outline. -/
theorem readGate {f : Gate E → Control E H β} {g : Outline E.Surface → Draft E.Surface β}
    (next : ∀ c : Controller E H, Mirrors plan (f c.session.gate) (g c.outline)) :
    Mirrors plan (onSession Act.gate >>= f) (get >>= g) where
  grows c := (next c).grows c
  agrees c := (next c).agrees c

theorem setGate {f : Gate E → Gate E} {g : Outline E.Surface → Outline E.Surface}
    (ready : ∀ gate, (f gate).ready = gate.ready)
    (does : ∀ c : Controller E H,
      ({ c with session := { c.session with gate := f c.session.gate } }).outline = g c.outline) :
    Mirrors plan (onSession (Act.setGate f) : Control E H Unit) (modify g) := by
  refine step fun c => ⟨_, rfl, does c, List.suffix_rfl, fun g => ?_⟩
  exact ⟨g.frames, (ready _).trans g.ready_eq, g.unjoined, g.owned⟩

theorem outline_close (c : Controller E H) {call : Call E.Surface} (unframed : call ≠ .render)
    (outcome : Outcome) (p : Performance E.State E.Effect) :
    ({ c with session := c.session.close .host call outcome p }).outline =
      c.outline.mark (.call call outcome) := by
  cases call with
  | render => exact absurd rfl unframed
  | prepare _ | attach _ | input _ | finish => rfl

theorem gated_close {s : Session E H} {call : Call E.Surface} (unframed : call ≠ .render)
    (outcome : Outcome) (p : Performance E.State E.Effect) (g : s.Gated) :
    (s.close .host call outcome p).Gated := by
  cases call with
  | render => exact absurd rfl unframed
  | prepare _ | attach _ | input _ | finish =>
      exact ⟨⟨(nomatch ·), g.frames⟩, g.ready_eq, g.unjoined,
        List.forall_mem_cons.mpr ⟨iff_of_true rfl unframed, g.owned⟩⟩

/-- The engine's answer is the planned one. -/
theorem perform (call : Call E.Surface) (demanded : call.demand?.isSome)
    (work : Work E.State E.Effect Unit) :
    Mirrors plan (onSession (Act.perform .host call work) : Control E H (Except Failure Unit))
      (Draft.ask plan call) := by
  have unframed : call ≠ .render := by
    rintro rfl
    cases demanded
  refine ⟨fun c => ?_, fun c gated => ?_⟩
  · simp only [onSession, Act.perform]
    rcases work ⟨c.session.gate.engine, []⟩ with ⟨_, p⟩ | ⟨why | panic, p⟩
    all_goals exact List.suffix_cons _ _
  · simp only [onSession, Act.perform]
    rcases work ⟨c.session.gate.engine, []⟩ with ⟨_, p⟩ | ⟨why | panic, p⟩
    all_goals
      simp only [stateOf, withState]
      rw [outline_close c unframed]
      intro explained
      -- The outcome is on the history that the plan explains.
      have planned : plan.answer c.outline.history call = _ := (explained.1 demanded).symm
      refine ⟨?_, gated_close unframed _ p gated⟩
      rw [Draft.ask_eq, planned]

theorem inform (call : Call E.Surface) (unframed : call ≠ .render)
    (work : E.State → E.State × List (Deed E.Effect)) :
    Mirrors plan (onSession (Act.inform .host call work) : Control E H Unit)
      (modify (Outline.mark (.call call .ok))) :=
  step fun c => ⟨_, rfl, outline_close c unframed .ok _, List.suffix_cons _ _,
    gated_close unframed .ok _⟩

theorem returns (a : α) :
    Mirrors plan (onSession (Pure.pure a) : Control E H α) (Pure.pure a) :=
  pure a

theorem branch {p : Prop} [Decidable p] {x₁ x₂ : Control E H α} {y₁ y₂ : Draft E.Surface α}
    (holds : Mirrors plan x₁ y₁) (fails : Mirrors plan x₂ y₂) :
    Mirrors plan (if p then x₁ else x₂) (if p then y₁ else y₂) := by
  split
  · exact holds
  · exact fails

theorem prepare (assets : AssetReader) (size : Extent) :
    Mirrors plan (onSession (Gate.prepare .host assets size) : Control E H _)
      (Draft.prepare plan size) := by
  simp only [Gate.prepare, onSession_bind, onSession_ite, Draft.prepare]
  refine readGate fun c => branch (returns _) (branch (returns _) ?_)
  refine bind (perform (.prepare size) rfl _) fun answer => ?_
  cases answer with
  | error why => exact returns _
  | ok _ =>
      simp only [onSession_bind]
      exact bind (setGate (fun _ => rfl) fun _ => rfl) fun _ => returns _

theorem give (surface : E.Surface) :
    Mirrors plan (onSession (Gate.give .host surface) : Control E H _)
      (Draft.give plan surface) := by
  simp only [Gate.give, onSession_bind, onSession_ite, Draft.give]
  refine readGate fun c => branch (returns _) (branch ?_ (returns _))
  refine bind (perform (.attach (some surface)) rfl _) fun answer => ?_
  cases answer with
  | error why => exact returns _
  | ok _ =>
      simp only [onSession_bind]
      exact bind (setGate (fun _ => rfl) fun _ => rfl) fun _ => returns _

theorem takeBack :
    Mirrors plan (onSession (Gate.takeBack .host) : Control E H _) (Draft.takeBack plan) := by
  simp only [Gate.takeBack, onSession_bind, onSession_ite, Draft.takeBack]
  refine readGate fun c => branch (returns _) ?_
  refine bind (setGate (fun _ => rfl) fun _ => rfl) fun _ => branch ?_ (returns _)
  refine bind (perform (.attach none) rfl _) fun answer => ?_
  cases answer with
  | error why => exact returns _
  | ok _ => exact returns _

theorem allow :
    Mirrors plan (onSession Gate.allow : Control E H _) Draft.allow := by
  simp only [Gate.allow, onSession_bind, onSession_ite, Draft.allow]
  refine readGate fun c => branch ?_ (returns _)
  refine bind (step fun _ => ?_) fun _ => returns _
  exact ⟨_, rfl, rfl, List.suffix_cons _ _, fun g => ⟨⟨False.elim, g.frames⟩, rfl, g.unjoined, g.owned⟩⟩

theorem feed (event : Input.Event) :
    Mirrors plan (onSession (Gate.feed .host event) : Control E H _) (Draft.feed event) := by
  simp only [Gate.feed, onSession_bind, onSession_ite, Draft.feed]
  refine readGate fun c => branch ?_ (returns _)
  exact bind (inform (.input event) (nomatch ·) _) fun _ => returns _

theorem finish :
    Mirrors plan (onSession (Gate.finish .host) : Control E H _) Draft.finish := by
  simp only [Gate.finish, onSession_bind, onSession_ite, Draft.finish]
  refine readGate fun c => branch (returns _) (branch ?_ (returns _))
  refine bind (inform .finish (nomatch ·) _) fun _ => ?_
  exact bind (setGate (fun _ => rfl) fun _ => rfl) fun _ => returns _

/-- The worker that is started last is not joined with the one before, even if both belong to one
cycle. -/
theorem mem_unjoined_retired {o : Outline E.Surface}
    (held : ∀ cycle ∈ o.worker, cycle ∈ History.unjoined o.history) (cycle : Nat) :
    cycle ∈ History.unjoined (o.mark (.started cycle)).retired.history := by
  simp only [Outline.retired]
  split
  · exact List.mem_cons_self
  · next earlier hw =>
      have before := held earlier hw
      by_cases same : cycle = earlier
      · subst same
        simpa [Outline.mark, History.unjoined] using before
      · exact (List.mem_erase_of_ne same).mpr List.mem_cons_self

/-- The worker that is still there is joined, and another one takes its place. -/
theorem replaceWorker (worker : Worker) {cycle : Nat} (same : worker.cycle = cycle)
    (line : Log.Line) :
    Mirrors plan
      (onSession (do
        Act.note (.started cycle)
        Act.note (.line (.worker worker.threadName) line)
        Act.dropWorker
        modify (·.setWorker worker)) : Control E H Unit)
      (modify fun o => { (o.mark (.started cycle)).retired with worker := some cycle }) := by
  subst same
  refine step fun c => ?_
  let begun : Controller E H := { c with
    session := (c.session.write (.started worker.cycle)).write
      (.line (.worker worker.threadName) line) }
  have started : c.session.Gated → begun.session.Gated := fun g =>
    ⟨⟨False.elim, False.elim, g.frames⟩, g.ready_eq,
      fun cycle h => List.mem_cons_of_mem _ (g.unjoined cycle h), g.owned⟩
  have marked : begun.outline = c.outline.mark (.started worker.cycle) := rfl
  have grown : c.session.journal <:+ begun.session.journal :=
    (List.suffix_cons _ _).trans (List.suffix_cons _ _)
  obtain ⟨answer, d, joins, same, longer, kept⟩ := outline_joinWorker begun
  rw [marked] at same
  let replace : Control E H Unit := modify fun c => { c with
    session := c.session.setWorker worker }
  refine ⟨{ d with session := d.session.setWorker worker }, ?_, ?_, grown.trans longer, fun g => ?_⟩
  · change (onSession Act.joinWorker >>= fun _ => replace) begun = _
    rw [bind_of_ok joins]
    rfl
  · rw [← same]
    rfl
  · have held := kept (started g)
    refine ⟨held.frames, held.ready_eq, fun cycle h => ?_, held.owned⟩
    obtain rfl : worker.cycle = cycle := Option.some.inj h
    have history : d.session.journal.history = d.outline.history := rfl
    change _ ∈ d.session.journal.history.unjoined
    rw [history, same]
    exact mem_unjoined_retired g.unjoined worker.cycle

theorem startWorker (settings : RenderSettings) (cycle : Nat) (clock : Nat → Nat) (startable : Bool)
    (ahead : Nat) :
    Mirrors plan (onSession (Act.startWorker settings cycle clock startable ahead) : Control E H _)
      (Draft.startWorker settings.startPanic? cycle startable) := by
  simp only [Act.startWorker, Draft.startWorker, RenderSettings.startPanic?]
  cases firstNull? (settings.threadName cycle).toUTF8.toList with
  | some index => exact throw _
  | none =>
      cases startable with
      | false => exact returns _
      | true =>
          have ran : Mirrors plan (onSession (Act.letRun ahead) : Control E H Unit) (Pure.pure ()) :=
            unmoved (fun _ => rfl) fun s => Session.Unmoved.steps ahead s
          have returned : Mirrors plan
              (onSession (Act.letRun ahead) >>= fun _ => Pure.pure (.ok ()) :
                Control E H (Except GateError Unit)) (Pure.pure (.ok ())) :=
            silent ran (pure _)
          exact bind (replaceWorker (Worker.new settings cycle clock) rfl _) fun _ => returned

theorem greeting {f : String → Control E H β} {y : Draft E.Surface β}
    (next : ∀ text, Mirrors plan (f text) y) :
    Mirrors plan (onSession Gate.greeting >>= f) y where
  grows c := (next _).grows c
  agrees c := (next _).agrees c

theorem giveUpSurface :
    Mirrors plan (giveUpSurface : Control E H Unit) (Draft.giveUpSurface plan) := by
  refine bind takeBack fun answer => ?_
  cases answer with
  | error error => exact silent (log _ _) (change (fun _ => rfl) fun _ => rfl)
  | ok _ => exact change (fun _ => rfl) fun _ => rfl

theorem abandonCycle (k : Conditions) :
    Mirrors plan (abandonCycle k : Control E H Unit) (Draft.abandonCycle plan) :=
  bind (endWorker k) fun _ => bind giveUpSurface fun _ => enter .idle

theorem dismantle (k : Conditions) :
    Mirrors plan (dismantle k : Control E H Unit) (Draft.dismantle plan) := by
  refine bind (moveTo .dismantling) fun _ => bind (closeGate k) fun _ => ?_
  refine bind (endWorker k) fun _ => bind giveUpSurface fun _ => look fun c => ?_
  refine bind (change (fun _ => rfl) fun _ => rfl) fun _ => ?_
  split
  · exact silent (log _ _) (moveTo .idle)
  · exact moveTo .idle

theorem startRendering (k : Conditions) :
    Mirrors plan (startRendering k : Control E H _) (Draft.startRendering plan k.startable) := by
  refine bind allow fun allowed => ?_
  cases allowed with
  | error error => exact bind (abandonCycle k) fun _ => pure _
  | ok _ =>
      refine bind (change (fun _ => rfl) fun _ => rfl) fun _ => read fun c => ?_
      refine bind (startWorker c.settings c.cycles k.clock k.startable (k.pace .started)) fun started => ?_
      cases started with
      | error error =>
          refine silent (log _ _) (bind (closeGate k) fun _ => ?_)
          exact bind (abandonCycle k) fun _ => pure _
      | ok _ => exact bind (moveTo .ready) fun _ => pure _

theorem beginCycle (k : Conditions) (size : Extent) (surface : E.Surface) (assets : AssetReader) :
    Mirrors plan (beginCycle k size surface assets : Control E H _)
      (Draft.beginCycle plan k.startable size surface) := by
  refine bind (moveTo .preparing) fun _ => bind (prepare assets size) fun prepared => ?_
  cases prepared with
  | error error => exact silent (log _ _) (bind (abandonCycle k) fun _ => pure _)
  | ok _ =>
      refine bind (moveTo .binding) fun _ => bind (give surface) fun given => ?_
      cases given with
      | error error => exact silent (log _ _) (bind (abandonCycle k) fun _ => pure _)
      | ok _ => exact bind (change (fun _ => rfl) fun _ => rfl) fun _ => startRendering k

theorem finishEngine :
    Mirrors plan (finishEngine : Control E H _) Draft.finishEngine := by
  refine read fun c => ?_
  have held : c.session.worker.isSome = c.outline.worker.isSome := by
    simp [Controller.outline]
  rw [held]
  refine branch (refuse _) (bind finish fun finished => ?_)
  cases finished with
  | error error => exact pure _
  | ok called =>
      have ended : Mirrors plan
          (do modify ({ · with ended := true }); return .ok () : Control E H (Except GateError Unit))
          (do modify ({ · with ended := true }); return .ok ()) :=
        bind (change (fun _ => rfl) fun _ => rfl) fun _ => pure _
      cases called with
      | false => exact ended
      | true => exact look fun c => silent (log _ _) ended

theorem deliver (k : Conditions) (events : List Input.Event) (index : Nat) :
    Mirrors plan (deliver k index events : Control E H Nat) (Draft.deliver events) := by
  induction events generalizing index with
  | nil => exact pure 0
  | cons event rest ih =>
      refine silent (letRun k _) (bind (feed event) fun delivered => ?_)
      have others (n : Nat) : Mirrors plan
          (do return n + (← Control.deliver k (index + 1) rest) : Control E H Nat)
          (do return n + (← Draft.deliver rest)) :=
        bind (ih (index + 1)) fun _ => pure _
      cases delivered with
      | false =>
          refine bind (change (fun _ => rfl) fun _ => rfl) fun _ => ?_
          exact silent (log _ _) (others 0)
      | true => exact others 1

/-- A step without a trace may come first, if a condition holds. -/
theorem perhaps {p : Prop} [Decidable p] {x : Control E H PUnit} {f : PUnit → Control E H β}
    {y : Draft E.Surface β} (first : Mirrors plan x (Pure.pure PUnit.unit))
    (next : Mirrors plan (f PUnit.unit) y) :
    Mirrors plan (if p then x >>= f else f PUnit.unit) y := by
  split
  · exact silent first next
  · exact next

theorem adopt (k : Conditions) (size : Extent) (surface : E.Surface) (assets : AssetReader) :
    Mirrors plan (Controller.adopt k size surface assets : Control E H _)
      (Draft.adopt plan k.startable size surface) := by
  refine read fun c => branch (refuse _) (perhaps (log _ _) (silent (log _ _) ?_))
  have onOutline : c.outline.stage = c.stage := rfl
  rw [onOutline]
  cases c.stage with
  | idle => exact beginCycle k size surface assets
  | ready =>
      refine silent (log _ _) (bind (closeGate k) fun _ => ?_)
      exact bind (endWorker k) fun _ => beginCycle k size surface assets
  | preparing | binding | dismantling => exact refuse _

theorem release (k : Conditions) :
    Mirrors plan (Controller.release k : Control E H Unit) (Draft.release plan) :=
  silent (log _ _) (read fun _ => branch (dismantle k) (log _ _))

theorem closeActivity (k : Conditions) :
    Mirrors plan (Controller.closeActivity k : Control E H _) (Draft.closeActivity plan) := by
  refine silent (log _ _) (read fun c => branch (silent (log _ _) (pure _)) ?_)
  have onOutline : c.outline.stage = c.stage := rfl
  rw [onOutline]
  split
  · exact bind (dismantle k) fun _ => finishEngine
  · exact finishEngine

theorem logAll (lines : List Log.Line) :
    Mirrors plan (lines.forM fun line => Control.log line.level line.text : Control E H PUnit)
      (Pure.pure PUnit.unit) := by
  induction lines with
  | nil => exact pure _
  | cons line rest ih => exact silent (log _ _) ih

theorem motion (k : Conditions) (batch : Input.Motion) :
    Mirrors plan (Controller.motion k batch : Control E H Nat) (Draft.motion batch) := by
  refine read fun c => ?_
  refine bind (change (fun _ => rfl) fun _ => rfl) fun _ => silent (logAll _) ?_
  exact deliver k _ 0

theorem key (k : Conditions) (pressed : Input.Key) :
    Mirrors plan (Controller.key k pressed : Control E H Bool) (Draft.key pressed) := by
  unfold Controller.key Draft.key
  cases pressed.event? with
  | none => exact pure false
  | some event => exact bind (deliver k [event] 0) fun _ => pure _

theorem report (k : Conditions) (report : Report E.Surface) :
    Mirrors plan (Controller.report k report : Control E H _)
      (Draft.report plan k.startable report) := by
  cases report with
  | appeared => exact silent (log _ _) (pure _)
  | sized size surface assets => exact adopt k size surface assets
  | vanished => exact bind (release k) fun _ => pure _
  | ended => exact closeActivity k
  | motion batch => exact bind (motion k batch) fun _ => pure _
  | key pressed => exact bind (key k pressed) fun _ => pure _

theorem discard (k : Conditions) :
    Mirrors plan (Controller.discard k : Control E H Unit) (Draft.discard plan) := by
  refine read fun c => ?_
  have onOutline : c.outline.stage = c.stage := rfl
  rw [onOutline]
  split
  · exact silent (log _ _) (bind (dismantle k) fun _ => dropWorker)
  · exact dropWorker

end Mirrors
end SurfaceGate
