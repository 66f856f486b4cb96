import SurfaceGate.Proofs.Outline.Course
import SurfaceGate.Proofs.Outline.Mirror
import SurfaceGate.Proofs.Outline.Sound

/-!
A bind cycle from its begin to its end.

From an outline with a closed gate and no worker, the begin of a cycle takes one of its courses: it ends
live or, if a step fails, idle. The end of a cycle ends idle. A panic on the way strands the outline, and
leaves it sound.
-/

namespace SurfaceGate.Outline

variable {S : Type} {α β : Type}

/-- A panic left a call amid a cycle. It came out of the last call of the engine, or else the start of
the worker panicked. -/
structure Torn (base : Outline S) (panic : Panic) (o : Outline S) : Prop where
  sound : Sound o
  stranded : Stranded o
  unserved : Unserved base o
  cause : (∃ call earlier, o.history.calls = (call, .panicked panic) :: earlier ∧
    base.history.calls <:+ earlier) ∨ o.startPanic? o.cycles = some panic

/-- A step of a call that began at `base` returns into `Q`, or a panic strands the outline. -/
def Ends (base : Outline S) (Q : α → Outline S → Prop) : EStateM.Result Panic (Outline S) α → Prop
  | .ok a o => Q a o
  | .error panic o => Torn base panic o

/-- A call may have begun earlier, if nothing was served since. -/
theorem Torn.rebase {o p q : Outline S} {panic : Panic} (torn : Torn p panic q)
    (unserved : Unserved o p) : Torn o panic q where
  sound := torn.sound
  stranded := torn.stranded
  unserved := unserved.trans torn.unserved
  cause := torn.cause.imp_left fun ⟨call, earlier, calls, before⟩ =>
    ⟨call, earlier, calls, (History.calls_suffix unserved.suffix).trans before⟩

namespace Ends

variable {plan : Plan} {base o p : Outline S} {x : Draft S α} {f : α → Draft S β}

theorem bind {Q : α → Outline S → Prop} {R : β → Outline S → Prop} (first : Ends base Q (x o))
    (next : ∀ a p, Q a p → Ends base R (f a p)) : Ends base R ((x >>= f) o) := by
  cases hx : x o with
  | ok a p =>
      rw [hx] at first
      rw [bind_of_ok hx]
      exact next a p first
  | error panic p =>
      rw [hx] at first
      rw [bind_of_error hx]
      exact first

theorem imp {Q R : α → Outline S → Prop} {r : EStateM.Result Panic (Outline S) α}
    (ends : Ends base Q r) (h : ∀ a p, Q a p → R a p) : Ends base R r := by
  cases r with
  | ok a p => exact h a p ends
  | error panic p => exact ends

theorem rebase {Q : α → Outline S → Prop} {r : EStateM.Result Panic (Outline S) α}
    (ends : Ends p Q r) (unserved : Unserved o p) : Ends o Q r := by
  cases r with
  | ok a q => exact ends
  | error panic q => exact Torn.rebase ends unserved

theorem after {a : α} {R : β → Outline S → Prop} (h : x o = .ok a p) (next : Ends base R (f a p)) :
    Ends base R ((x >>= f) o) := by
  rw [bind_of_ok h]
  exact next

theorem ask {call : Call S} {f : Except Failure Unit → Draft S β} {R : β → Outline S → Prop}
    (ok : Ends base R (f (.ok ()) (o.mark (.call call .ok))))
    (failed : ∀ why, Ends base R (f (.error why) (o.mark (.call call (.failed why)))))
    (panicked : ∀ panic, Torn base panic (o.mark (.call call (.panicked panic)))) :
    Ends base R ((Draft.ask plan call >>= f) o) := by
  have asked := Draft.ask_eq plan call o
  cases outcome : plan.answer o.history call with
  | ok =>
      rw [outcome] at asked
      rw [bind_of_ok asked]
      exact ok
  | failed why =>
      rw [outcome] at asked
      rw [bind_of_ok asked]
      exact failed why
  | panicked panic =>
      rw [outcome] at asked
      rw [bind_of_error asked]
      exact panicked panic

end Ends

theorem moveTo_eq {o : Outline S} {next : Stage} (allowed : o.stage.allows next = true) :
    Draft.moveTo next o = .ok () (o.entered next) := by
  change (if o.stage.allows next = true then modify (entered next)
    else throw (.text s!"illegal transition {o.stage.shown} -> {next.shown}") : Draft S Unit) o = _
  rw [if_pos allowed]
  rfl

theorem Ends.moveTo {base o : Outline S} {next : Stage} {Q : Unit → Outline S → Prop}
    (allowed : o.stage.allows next = true) (h : Q () (o.entered next)) :
    Ends base Q (Draft.moveTo next o) := by
  rw [moveTo_eq allowed]
  exact h

namespace Amid

variable {base o : Outline S} {stage : Stage} {plan : Plan}

/-- A change of what the cycle holds, and of nothing else. -/
theorem same {p : Outline S} (amid : Amid base stage o) (history : p.history = o.history)
    (phase : p.phase = o.phase) (ready : p.ready = o.ready) (worker : p.worker = o.worker)
    (cycles : p.cycles = o.cycles) (at_stage : p.stage = o.stage) (ended : p.ended = o.ended) :
    Amid base stage p where
  toKept := amid.toKept.same history phase ready worker (cycles ▸ Nat.le_refl _)
  unserved := amid.unserved.same history
  stage_eq := at_stage.trans amid.stage_eq
  closed := ready.trans amid.closed
  free := worker.trans amid.free
  lasts := ended.trans amid.lasts
  alive := phase ▸ amid.alive
  count := by
    rw [history, cycles]
    exact amid.count

theorem entered (amid : Amid base stage o) {next : Stage} (allowed : stage.allows next = true) :
    Amid base next (o.entered next) where
  toKept := amid.toKept.entered (amid.stage_eq ▸ allowed)
  unserved := amid.unserved.marked rfl rfl
  stage_eq := rfl
  closed := amid.closed
  free := amid.free
  lasts := amid.lasts
  alive := amid.alive
  count := amid.count

/-- A call that neither prepares the engine nor gives it a surface. -/
theorem asked (amid : Amid base stage o) {call : Call S} {outcome : Outcome}
    (permitted : History.Permits o.history (.call call outcome))
    (begins : call.isLifecycle = true)
    (prepares : ∀ size, Mark.call call outcome ≠ .call (.prepare size) .ok)
    (finishes : ∀ outcome', Mark.call call outcome ≠ .call .finish outcome')
    (gives : ∀ surface, Mark.call call outcome ≠ .call (.attach (some surface)) .ok) :
    Amid base stage (o.mark (.call call outcome)) where
  toKept := amid.toKept.marked permitted prepares finishes rfl rfl amid.ready_eq amid.unjoined_eq rfl
    (by simp)
  unserved := amid.unserved.marked rfl (by simp [Mark.serves, Call.isServed, begins])
  stage_eq := amid.stage_eq
  closed := amid.closed
  free := amid.free
  lasts := amid.lasts
  alive := amid.alive
  count := (History.taken_cons gives).trans amid.count

/-- The engine panics at a call amid a cycle. -/
theorem torn (amid : Amid base stage o) {call : Call S} {panic : Panic}
    (permitted : History.Permits o.history (.call call (.panicked panic)))
    (begins : call.isLifecycle = true) (lasts : call ≠ .finish) (notIdle : stage ≠ .idle)
    (notReady : stage ≠ .ready) : Torn base panic (o.mark (.call call (.panicked panic))) := by
  have left : Amid base stage (o.mark (.call call (.panicked panic))) :=
    amid.asked permitted begins (by simp) (by simp [lasts]) (by simp)
  have stranded : Stranded (o.mark (.call call (.panicked panic))) := by
    refine ⟨left.stage_eq ▸ notIdle, left.stage_eq ▸ notReady, left.free, fun ready => ?_⟩
    rw [left.closed] at ready
    cases ready
  have before := History.calls_suffix amid.unserved.suffix
  refine ⟨⟨left.toKept, left.count, fun h => absurd h left.alive, fun h => ?_, .inr (.inr stranded)⟩,
    stranded, left.unserved, .inl ⟨call, o.history.calls, rfl, before⟩⟩
  rw [left.lasts] at h
  cases h

theorem prepared_iff_ever (amid : Amid base stage o) :
    o.phase = .prepared ↔ everPrepared o.history.calls = true := by
  rw [amid.prepared_iff, History.prepared_iff_ever]
  exact and_iff_left (amid.unfinished amid.alive)

end Amid

/-- The engine is prepared for a size. -/
structure Fitted (base : Outline S) (stage : Stage) (size : Extent) (o : Outline S) : Prop
    extends Amid base stage o where
  prepared : o.phase = .prepared
  first : ∃ earlier, History.lifecycle o.history = (.prepare size, .ok) :: earlier

/-- The engine has the surface, and the cycle is not counted yet. -/
structure Given (base : Outline S) (surface : S) (size : Extent) (o : Outline S) : Prop
    extends Kept o where
  unserved : Unserved base o
  stage_eq : o.stage = .binding
  closed : o.ready = false
  free : o.worker = none
  lasts : o.ended = false
  prepared : o.phase = .prepared
  bound : o.bound = true
  last : History.Bound surface size o.history
  count : History.taken o.history = o.cycles + 1

variable {base o : Outline S} {stage : Stage} {plan : Plan} {size : Extent} {surface : S}

theorem Fitted.entered (fitted : Fitted base stage size o) {next : Stage}
    (allowed : stage.allows next = true) : Fitted base next size (o.entered next) where
  toAmid := fitted.toAmid.entered allowed
  prepared := fitted.prepared
  first := fitted.first

theorem Amid.fitted (amid : Amid base stage o) (size : Extent) :
    Fitted base stage size { o.mark (.call (.prepare size) .ok) with phase := .prepared } where
  lawful := ⟨⟨amid.quiet amid.closed amid.free, amid.unfinished amid.alive⟩, amid.lawful⟩
  ready_eq := amid.ready_eq
  unjoined_eq := amid.unjoined_eq
  finished_iff := by
    refine ⟨nofun, fun finished => absurd ?_ (amid.unfinished amid.alive)⟩
    exact (History.finished_cons (by simp)).mp finished
  prepared_iff := by
    refine ⟨fun _ => ⟨⟨size, List.mem_cons_self⟩, fun finished => ?_⟩, fun _ => rfl⟩
    exact amid.unfinished amid.alive ((History.finished_cons (by simp)).mp finished)
  started_le cycle h := by
    rcases List.mem_cons.mp h with here | before
    · cases here
    · exact amid.started_le cycle before
  unserved := amid.unserved.marked rfl rfl
  stage_eq := amid.stage_eq
  closed := amid.closed
  free := amid.free
  lasts := amid.lasts
  alive := nofun
  count := amid.count
  prepared := rfl
  first := ⟨_, rfl⟩

theorem Amid.prepare (amid : Amid base .preparing o) (plan : Plan) (size : Extent) :
    Ends base (fun answer p => match answer with
        | .ok _ => Fitted base .preparing size p ∧
            p.history.calls = (.prepare size, .ok) :: o.history.calls
        | .error error => ∃ why, error = .prepare why ∧ Amid base .preparing p ∧
            p.history.calls = (.prepare size, .failed why) :: o.history.calls)
      (Draft.prepare plan size o) := by
  have permitted (outcome : Outcome) :
      History.Permits o.history (.call (.prepare size) outcome) :=
    ⟨amid.quiet amid.closed amid.free, amid.unfinished amid.alive⟩
  simp only [Draft.prepare]
  refine Ends.after (a := o) (p := o) rfl ?_
  rw [if_neg (by simp [amid.closed]), if_neg amid.alive]
  refine Ends.ask ?_ (fun why => ?_) fun panic => ?_
  · exact ⟨amid.fitted size, rfl⟩
  · exact ⟨why, rfl, amid.asked (permitted _) rfl (by simp) (by simp) (by simp), rfl⟩
  · exact amid.torn (permitted _) rfl nofun nofun nofun

theorem Fitted.permits (fitted : Fitted base stage size o) (surface : Option S) (outcome : Outcome) :
    History.Permits o.history (.call (.attach surface) outcome) :=
  ⟨fitted.quiet fitted.closed fitted.free, fitted.prepared_iff.mp fitted.prepared⟩

theorem Fitted.given (fitted : Fitted base .binding size o) (surface : S) :
    Given base surface size { o.mark (.call (.attach (some surface)) .ok) with bound := true } where
  toKept := fitted.toKept.marked (fitted.permits (some surface) .ok) (by simp) (by simp) rfl rfl
    fitted.ready_eq fitted.unjoined_eq rfl (by simp)
  unserved := fitted.unserved.marked rfl rfl
  stage_eq := fitted.stage_eq
  closed := fitted.closed
  free := fitted.free
  lasts := fitted.lasts
  prepared := fitted.prepared
  bound := rfl
  last := by
    obtain ⟨earlier, first⟩ := fitted.first
    exact ⟨earlier, congrArg (_ :: ·) first⟩
  count := congrArg (· + 1) fitted.count

theorem Fitted.give (fitted : Fitted base .binding size o) (plan : Plan) (surface : S) :
    Ends base (fun answer p => match answer with
        | .ok _ => Given base surface size p ∧
            p.history.calls = (.attach (some surface), .ok) :: o.history.calls
        | .error error => ∃ why, error = .attach why ∧ Amid base .binding p ∧
            p.history.calls = (.attach (some surface), .failed why) :: o.history.calls)
      (Draft.give plan surface o) := by
  have permitted := fitted.permits (some surface)
  simp only [Draft.give]
  refine Ends.after (a := o) (p := o) rfl ?_
  rw [if_neg (by simp [fitted.closed]), if_pos fitted.prepared]
  refine Ends.ask ?_ (fun why => ?_) fun panic => ?_
  · exact ⟨fitted.given surface, rfl⟩
  · exact ⟨why, rfl, fitted.toAmid.asked (permitted _) rfl (by simp) (by simp) (by simp), rfl⟩
  · exact fitted.toAmid.torn (permitted _) rfl nofun nofun nofun

theorem Amid.takeBack (amid : Amid base stage o) (plan : Plan) (notIdle : stage ≠ .idle)
    (notReady : stage ≠ .ready) :
    Ends base (fun _ p => Amid base stage p ∧ p.bound = false ∧
        ∃ taken, p.history.calls = takenBack taken o.history.calls) (Draft.takeBack plan o) := by
  have free : Amid base stage { o with bound := false } := amid.same rfl rfl rfl rfl rfl rfl rfl
  simp only [Draft.takeBack]
  refine Ends.after (a := o) (p := o) rfl ?_
  rw [if_neg (by simp [amid.closed])]
  refine Ends.after (p := { o with bound := false }) rfl ?_
  by_cases prepared : o.phase = .prepared
  · rw [if_pos prepared]
    have permitted (outcome : Outcome) :
        History.Permits ({ o with bound := false }).history (.call (.attach none) outcome) :=
      ⟨free.quiet free.closed free.free, free.prepared_iff.mp prepared⟩
    have made (outcome : Outcome) :
        takenBack outcome o.history.calls = (.attach none, outcome) :: o.history.calls :=
      if_pos (amid.prepared_iff_ever.mp prepared)
    refine Ends.ask ?_ (fun why => ?_) fun panic => ?_
    · exact ⟨free.asked (permitted _) rfl (by simp) (by simp) (by simp), rfl, .ok, (made _).symm⟩
    · exact ⟨free.asked (permitted _) rfl (by simp) (by simp) (by simp), rfl, .failed why,
        (made _).symm⟩
    · exact free.torn (permitted _) rfl nofun notIdle notReady
  · rw [if_neg prepared]
    exact ⟨free, rfl, .ok, (if_neg fun ever => prepared (amid.prepared_iff_ever.mpr ever)).symm⟩

/-- Nothing is bound or held any more, but the cycle is not over. -/
structure Cleared (base : Outline S) (stage : Stage) (o : Outline S) : Prop
    extends Amid base stage o where
  unbound : o.bound = false
  surface : o.surface = none
  size : o.size = none

theorem Amid.giveUpSurface (amid : Amid base stage o) (plan : Plan) (notIdle : stage ≠ .idle)
    (notReady : stage ≠ .ready) :
    Ends base (fun _ p => Cleared base stage p ∧
        ∃ taken, p.history.calls = takenBack taken o.history.calls) (Draft.giveUpSurface plan o) := by
  refine Ends.bind (amid.takeBack plan notIdle notReady) fun _ p ⟨left, unbound, calls⟩ => ?_
  exact ⟨⟨left.same rfl rfl rfl rfl rfl rfl rfl, unbound, rfl, rfl⟩, calls⟩

theorem Cleared.idle (cleared : Cleared base stage o) (allowed : stage.allows .idle = true) :
    Sound (o.entered .idle) ∧ Idle (o.entered .idle) ∧ Unserved base (o.entered .idle) := by
  have amid := cleared.toAmid.entered allowed
  have idle : Idle (o.entered .idle) :=
    ⟨rfl, amid.closed, amid.free, cleared.surface, cleared.size, cleared.unbound⟩
  refine ⟨⟨amid.toKept, amid.count, fun h => absurd h amid.alive, fun h => ?_, .inl idle⟩, idle,
    amid.unserved⟩
  rw [amid.lasts] at h
  cases h

theorem Amid.abandonCycle (amid : Amid base stage o) (plan : Plan) (allowed : stage.allows .idle = true)
    (notIdle : stage ≠ .idle) (notReady : stage ≠ .ready) :
    Ends base (fun _ p => (Sound p ∧ Idle p ∧ Unserved base p) ∧
        ∃ taken, p.history.calls = takenBack taken o.history.calls) (Draft.abandonCycle plan o) := by
  refine Ends.after (p := o) (congrArg _ (retired_of_free amid.free)) ?_
  refine Ends.bind (amid.giveUpSurface plan notIdle notReady) fun _ p ⟨cleared, calls⟩ => ?_
  exact ⟨cleared.idle allowed, calls⟩

theorem calls_retired (o : Outline S) : o.retired.history.calls = o.history.calls := by
  simp only [Outline.retired]
  split
  · rfl
  · rfl

theorem taken_retired (o : Outline S) :
    History.taken o.retired.history = History.taken o.history := by
  rw [History.taken_eq, calls_retired, ← History.taken_eq]

/-- The gate is closed and the worker joined, but nothing else is done yet. -/
theorem Kept.halted (kept : Kept o) (lasts : o.ended = false) (alive : o.phase ≠ .finished)
    (count : History.taken o.history = o.cycles) (unserved : Unserved base o) :
    Amid base o.stage o.closed.retired where
  toKept := kept.closed.retired rfl
  unserved := Unserved.retired (unserved.marked rfl rfl)
  stage_eq := by
    rw [retired_eq]
    rfl
  closed := by
    rw [retired_eq]
    rfl
  free := by
    rw [retired_eq]
  lasts := by
    rw [retired_eq]
    exact lasts
  alive := by
    rw [retired_eq]
    exact alive
  count := by
    rw [taken_retired, retired_eq]
    exact count

theorem Live.lasts (live : Live o) (sound : Sound o) : o.ended = false := by
  cases ended : o.ended with
  | false => rfl
  | true => exact absurd live.prepared (sound.spent ended)

theorem Live.dismantle (live : Live o) (sound : Sound o) (plan : Plan) :
    Ends o (fun _ p => Sound p ∧ Idle p ∧ Unserved o p) (Draft.dismantle plan o) := by
  have allowed : o.stage.allows .dismantling = true := by
    rw [live.stage]
    rfl
  have alive : o.phase ≠ .finished := by
    rw [live.prepared]
    nofun
  have amid : Amid o .dismantling (o.entered .dismantling).closed.retired :=
    (sound.toKept.entered allowed).halted (live.lasts sound) alive sound.count
      ((Unserved.refl o).marked rfl rfl)
  refine Ends.after (moveTo_eq allowed) (Ends.after rfl (Ends.after rfl ?_))
  refine Ends.bind (amid.giveUpSurface plan nofun nofun) fun _ p ⟨cleared, _⟩ => ?_
  have forgotten : Cleared o .dismantling { p with pointers := Input.Pointers.empty } :=
    ⟨cleared.toAmid.same rfl rfl rfl rfl rfl rfl rfl, cleared.unbound, cleared.surface, cleared.size⟩
  exact Ends.moveTo (cleared.stage_eq ▸ rfl) (forgotten.idle rfl)

/-- What the begin of a cycle at `base` leaves when it takes a course. -/
structure Took (base : Outline S) (startable : Bool) (size : Extent) (surface : S) (course : Course)
    (o : Outline S) : Prop where
  sound : Sound o
  calls : ∃ taken, o.history.calls = course.calls size surface taken base.history.calls
  up : course = .up → startable = true ∧ Live o
  down : course ≠ .up → Idle o ∧ Unserved base o
  unstarted : course = .unstarted → startable = false

def Came (base : Outline S) (startable : Bool) (size : Extent) (surface : S)
    (answer : Except GateError Unit) (o : Outline S) : Prop :=
  ∃ course, answer = course.answer ∧ Took base startable size surface course o

theorem Ends.abandoned {startable : Bool} (course : Course) {error : GateError}
    (amid : Amid base stage o) (plan : Plan) (allowed : stage.allows .idle = true)
    (notIdle : stage ≠ .idle) (notReady : stage ≠ .ready) (answer : .error error = course.answer)
    (calls : ∀ taken, takenBack taken o.history.calls =
      course.calls size surface taken base.history.calls)
    (unstarted : course = .unstarted → startable = false) :
    Ends base (Came base startable size surface) ((do Draft.abandonCycle plan; return .error error :
      Draft S (Except GateError Unit)) o) := by
  refine Ends.bind (amid.abandonCycle plan allowed notIdle notReady) fun _ p ⟨idle, taken, made⟩ => ?_
  refine ⟨course, answer, idle.1, ⟨taken, made.trans (calls taken)⟩, ?_, fun _ => idle.2, unstarted⟩
  rintro rfl
  cases answer

/-- The gate is open and the cycle is counted, but its worker is not started. -/
structure Counted (base : Outline S) (surface : S) (size : Extent) (o : Outline S) : Prop
    extends Kept o where
  unserved : Unserved base o
  stage_eq : o.stage = .binding
  ready : o.ready = true
  free : o.worker = none
  lasts : o.ended = false
  prepared : o.phase = .prepared
  bound : o.bound = true
  holds : o.surface = some surface ∧ o.size = some size
  last : History.Bound surface size o.history
  count : History.taken o.history = o.cycles
  fresh : ∀ earlier, Mark.started earlier ∈ o.history → earlier < o.cycles

theorem Given.counted (given : Given base surface size o)
    (holds : o.surface = some surface ∧ o.size = some size) :
    Counted base surface size { o.opened with cycles := o.cycles + 1 } where
  unserved := given.unserved.marked rfl rfl
  toKept := by
    obtain ⟨prepared, unfinished⟩ := given.prepared_iff.mp given.prepared
    have opened := given.toKept.opened ⟨⟨surface, size, given.last⟩, prepared, unfinished⟩
    exact opened.same rfl rfl rfl rfl (Nat.le_succ _)
  stage_eq := given.stage_eq
  ready := rfl
  free := given.free
  lasts := given.lasts
  prepared := given.prepared
  bound := given.bound
  holds := holds
  last := given.last
  count := given.count
  fresh earlier h := by
    rcases List.mem_cons.mp h with here | before
    · cases here
    · exact Nat.lt_succ_of_le (given.started_le earlier before)

theorem Counted.torn (counted : Counted base surface size o) {panic : Panic}
    (starts : o.startPanic? o.cycles = some panic) : Torn base panic o := by
  have left : Stranded o := by
    refine ⟨?_, ?_, counted.free, fun _ => ⟨counted.prepared, ?_⟩⟩
    · rw [counted.stage_eq]
      nofun
    · rw [counted.stage_eq]
      nofun
    · rw [counted.holds.1]
      rfl
  refine ⟨⟨counted.toKept, counted.count, fun finished => ?_, fun ended => ?_, .inr (.inr left)⟩,
    left, counted.unserved, .inr starts⟩
  · rw [counted.prepared] at finished
    cases finished
  · rw [counted.lasts] at ended
    cases ended

theorem Counted.amid (counted : Counted base surface size o) : Amid base .binding o.closed where
  toKept := counted.toKept.closed
  unserved := counted.unserved.marked rfl rfl
  stage_eq := counted.stage_eq
  closed := rfl
  free := counted.free
  lasts := counted.lasts
  alive := by
    change o.phase ≠ .finished
    rw [counted.prepared]
    nofun
  count := counted.count

def begun (o : Outline S) : Outline S :=
  { o.mark (.started o.cycles) with worker := some o.cycles }

theorem Counted.startWorker (counted : Counted base surface size o) (startable : Bool) :
    Ends base (fun answer p => match answer with
        | .ok _ => startable = true ∧ p = o.begun
        | .error error => startable = false ∧ error = .workerStart .tryAgain ∧ p = o)
      (Draft.startWorker o.startPanic? o.cycles startable o) := by
  simp only [Draft.startWorker]
  cases starts : o.startPanic? o.cycles with
  -- The one panic that leaves the gate open.
  | some panic => exact counted.torn starts
  | none =>
      cases startable with
      | false => exact ⟨rfl, rfl, rfl⟩
      | true =>
          have free : (o.mark (.started o.cycles)).retired = o.mark (.started o.cycles) :=
            retired_of_free counted.free
          refine Ends.after rfl (Ends.after (congrArg (EStateM.Result.ok PUnit.unit) free) ?_)
          exact Ends.after rfl ⟨rfl, rfl⟩

theorem Counted.live (counted : Counted base surface size o) :
    Sound (o.begun.entered .ready) ∧ Live (o.begun.entered .ready) := by
  -- The count went up behind the open gate, so no earlier worker has this cycle.
  have started : Kept o.begun := by
    refine counted.toKept.marked (m := .started o.cycles) ⟨?_, ?_, counted.fresh⟩ (by simp) (by simp)
      rfl rfl counted.ready_eq ?_ rfl (by simp [begun, mark])
    · exact counted.ready_eq.symm.trans counted.ready
    · rw [counted.unjoined_eq, counted.free]
      rfl
    · simp [History.unjoined, counted.unjoined_eq, counted.free, begun]
  have kept : Kept (o.begun.entered .ready) := started.entered (by
    change o.stage.allows .ready = true
    rw [counted.stage_eq]
    rfl)
  have live : Live (o.begun.entered .ready) :=
    ⟨rfl, counted.ready, rfl, counted.bound, counted.prepared, surface, size, counted.holds.1,
      counted.holds.2, counted.last⟩
  refine ⟨⟨kept, counted.count, fun finished => ?_, fun ended => ?_, .inr (.inl live)⟩, live⟩
  · rw [live.prepared] at finished
    cases finished
  · rw [show (o.begun.entered .ready).ended = false from counted.lasts] at ended
    cases ended

theorem Given.startRendering (given : Given base surface size o) (plan : Plan) (startable : Bool)
    (holds : o.surface = some surface ∧ o.size = some size)
    (calls : o.history.calls =
      (.attach (some surface), .ok) :: (.prepare size, .ok) :: base.history.calls) :
    Ends base (Came base startable size surface) (Draft.startRendering plan startable o) := by
  have allowed : Draft.allow o = .ok (.ok ()) o.opened := by
    refine (get_bind _ o).trans ?_
    rw [if_pos ⟨given.prepared, given.bound⟩]
    rfl
  have counted := given.counted holds
  refine Ends.after allowed (Ends.after rfl (Ends.after rfl ?_))
  refine Ends.bind (counted.startWorker startable) fun started p after => ?_
  cases started with
  | error error =>
      obtain ⟨unstartable, rfl, rfl⟩ := after
      refine Ends.after rfl (Ends.abandoned .unstarted counted.amid plan rfl nofun nofun rfl
        (fun taken => ?_) fun _ => unstartable)
      exact congrArg (takenBack taken) calls
  | ok _ =>
      obtain ⟨started, rfl⟩ := after
      have up := counted.live
      refine Ends.after (moveTo_eq (counted.stage_eq ▸ rfl)) ?_
      exact ⟨.up, rfl, up.1, ⟨.ok, calls⟩, fun _ => ⟨started, up.2⟩, fun other => absurd rfl other, nofun⟩

theorem Amid.beginCycle (amid : Amid base stage o) (uncalled : o.history.calls = base.history.calls)
    (allowed : stage.allows .preparing = true) (plan : Plan) (startable : Bool) (size : Extent)
    (surface : S) :
    Ends base (Came base startable size surface) (Draft.beginCycle plan startable size surface o) := by
  have begun := amid.entered allowed
  refine Ends.after (moveTo_eq (amid.stage_eq ▸ allowed)) ?_
  refine Ends.bind (begun.prepare plan size) fun prepared p after => ?_
  cases prepared with
  | error error =>
      obtain ⟨why, rfl, left, calls⟩ := after
      refine Ends.abandoned (.unprepared why) left plan rfl nofun nofun rfl (fun taken => ?_)
        nofun
      exact congrArg (takenBack taken) (calls.trans (congrArg _ uncalled))
  | ok _ =>
      obtain ⟨fitted, prepared⟩ := after
      have binding : p.stage.allows .binding = true := fitted.stage_eq ▸ rfl
      refine Ends.after (moveTo_eq binding) ?_
      refine Ends.bind ((fitted.entered rfl).give plan surface) fun given q after => ?_
      have before := prepared.trans (congrArg _ uncalled)
      cases given with
      | error error =>
          obtain ⟨why, rfl, left, calls⟩ := after
          refine Ends.abandoned (.ungiven why) left plan rfl nofun nofun rfl (fun taken => ?_)
            nofun
          exact congrArg (takenBack taken) (calls.trans (congrArg _ before))
      | ok _ =>
          obtain ⟨given, calls⟩ := after
          refine Ends.after (p := { q with surface := some surface, size := some size }) rfl ?_
          refine Given.startRendering ?_ plan startable ⟨rfl, rfl⟩ (calls.trans (congrArg _ before))
          exact ⟨given.toKept.same rfl rfl rfl rfl (Nat.le_refl _), given.unserved, given.stage_eq,
            given.closed, given.free, given.lasts, given.prepared, given.bound, given.last,
            given.count⟩

end SurfaceGate.Outline
