import SurfaceGate.Engine.Scripted
import SurfaceGate.Proofs.Worker.Amidst

/-!
What a render loop does.

At an open gate the story of a worker that nobody stops is told by its frames and its rests alone: it draws one
frame after the other, up to the first that breaks or to the first rest that overruns the clock. However the threads
take turns, this and what a closed gate or the request to end makes of it is all that a render loop does.
-/

namespace SurfaceGate

variable {E : Engine} {H : Type}

namespace Story

/-- Who says that it was stopped was asked to end. -/
def Honest (story : Story) : Prop :=
  story.stretch = .gone .stopped → story.running = false

theorem Honest.step {story : Story} (honest : story.Honest) (w : Worker) (ready : Bool) (frame : Outcome) :
    (story.step w ready frame).Honest := by
  obtain ⟨count, running, stretch⟩ := story
  intro left
  cases stretch with
  | checking =>
      cases running with
      | true => cases left
      | false => rfl
  | rendering =>
      cases ready with
      | false => cases left
      | true =>
          cases frame with
          | ok | failed _ | panicked _ => cases left
  | resting =>
      simp only [Story.step] at left
      split at left
      · cases left
      · cases left
  | gone leaving => exact honest left

/-- The story of a worker that nobody stops behind that many steps, at a gate that stays open: its frames come out
so. -/
def played (w : Worker) (outcomes : List Outcome) : Nat → Story
  | 0 => start
  | n + 1 =>
      (played w outcomes n).step w true (outcomes[(played w outcomes n).count]?.getD .ok)

variable {w : Worker} {outcomes : List Outcome} {k : Nat}

theorem running_played (n : Nat) : (played w outcomes n).running = true := by
  induction n with
  | zero => rfl
  | succ n ih => exact (running_step w _ _ _).trans ih

section Fine

variable (fine : ∀ i < k, outcomes[i]? = some .ok ∧ w.overruns (i + 1) = false)
include fine

/-- Three steps for each frame that is drawn. -/
theorem played_fine : played w outcomes (3 * k) = ⟨k, true, .checking⟩ := by
  induction k with
  | zero => rfl
  | succ k ih =>
      have before := ih fun i earlier => fine i (Nat.lt_succ_of_lt earlier)
      obtain ⟨drawn, timed⟩ := fine k k.lt_succ_self
      change played w outcomes (3 * k + 1 + 1 + 1) = _
      simp [played, before, step, attempt, drawn, timed]

theorem played_broken {stop : Stop} (broken : outcomes[k]? = some stop.outcome) :
    played w outcomes (3 * k + 2) = ⟨k, true, .gone (.broken stop)⟩ := by
  cases stop with
  | failed _ | panicked _ => simp [played, played_fine fine, step, attempt, leave, broken, Stop.outcome]

theorem played_overrun (drawn : outcomes[k]? = some .ok) (late : w.overruns (k + 1) = true) :
    played w outcomes (3 * k + 3) = ⟨k + 1, true, .gone .overrun⟩ := by
  simp [played, played_fine fine, step, attempt, leave, drawn, late]

end Fine

/-- Who has left does not come back. -/
theorem played_of_gone {m n : Nat} {leaving : Leaving} (gone : played w outcomes m = ⟨k, true, .gone leaving⟩)
    (late : m ≤ n) : played w outcomes n = ⟨k, true, .gone leaving⟩ := by
  induction late with
  | refl => exact gone
  | step _ ih => rw [played, ih, step]

end Story

namespace Session

/-- The gate is open, the worker is not asked to end, and the frame that it is about to draw comes out as the
next of the outcomes; those before it came out since `s`. -/
structure Plays (name : String) (outcomes : List Outcome) (s t : Session E H) : Prop where
  ready : t.gate.ready = true
  running : ∀ w ∈ t.worker, w.running = true
  frame : ∀ w ∈ t.worker, w.place = .rendering →
    outcomes[(t.journal.callsBy (.worker name)).length -
      (s.journal.callsBy (.worker name)).length]? = some t.frame

instance (name : String) (outcomes : List Outcome) (s t : Session E H) :
    Decidable (s.Plays name outcomes t) :=
  decidable_of_iff (t.gate.ready = true ∧ (∀ w ∈ t.worker, w.running = true) ∧
      ∀ w ∈ t.worker, w.place = .rendering →
        outcomes[(t.journal.callsBy (.worker name)).length -
          (s.journal.callsBy (.worker name)).length]? = some t.frame)
    ⟨fun h => ⟨h.1, h.2.1, h.2.2⟩, fun h => ⟨h.ready, h.running, h.frame⟩⟩

/-- The frame that a worker is about to draw is the next of the outcomes. -/
theorem Plays.next {w : Worker} {s t : Session E H} {story : Story} {outcomes : List Outcome}
    (plays : s.Plays w.threadName outcomes t) (recounts : s.Recounts w t story)
    (rendering : story.stretch = .rendering) : outcomes[story.count]? = some t.frame := by
  have frame := plays.frame _ recounts.worker (congrArg Stretch.place rendering)
  rw [recounts.recorded.length_calls] at frame
  simpa [Story.calls, Stretch.calls, rendering] using frame

/-- A worker that nobody stops draws as the outcomes have it. -/
theorem Recounts.plays {w : Worker} {s t : Session E H} (fresh : s.Recounts w s .start) {n : Nat}
    {outcomes : List Outcome} (amidst : s.Amidst w.threadName (s.Plays w.threadName outcomes) n t) :
    ∃ running, s.Recounts w t
      ⟨(Story.played w outcomes n).count, running, (Story.played w outcomes n).stretch⟩ := by
  have follows : ∃ story, s.Recounts w t story ∧ ∃ running,
      story = ⟨(Story.played w outcomes n).count, running, (Story.played w outcomes n).stretch⟩ := by
    refine fresh.induct (I := fun n story => ∃ running,
      story = ⟨(Story.played w outcomes n).count, running, (Story.played w outcomes n).stretch⟩)
      ⟨true, rfl⟩ ?_ (fun _ _ ⟨_, same⟩ => ⟨false, same ▸ rfl⟩) amidst
    rintro n story t plays recounts ⟨running, rfl⟩
    cases plays.running _ recounts.worker
    -- Nobody stopped the worker so far, so the story is the one that is played.
    have same : (⟨(Story.played w outcomes n).count, true, (Story.played w outcomes n).stretch⟩ : Story) =
        Story.played w outcomes n := by
      rw [← Story.running_played n]
    rw [same] at recounts ⊢
    have on : (Story.played w outcomes n).step w t.gate.ready t.frame = Story.played w outcomes (n + 1) := by
      rw [plays.ready, Story.played]
      cases stretch : (Story.played w outcomes n).stretch with
      | rendering => rw [plays.next recounts stretch, Option.getD_some]
      | checking | resting | gone _ => simp only [Story.step, stretch]
    rw [on]
    exact ⟨(Story.played w outcomes (n + 1)).running, rfl⟩
  obtain ⟨_, recounts, running, rfl⟩ := follows
  exact ⟨running, recounts⟩

/-- What the worker `w`, as it was set up in `s`, does however the threads take turns. -/
structure Renders (w : Worker) (s : Session E H) : Prop where
  told : ∀ n t, s.Amidst w.threadName (fun _ => True) n t →
    ∃ story, s.Recounts w t story ∧ story.Honest
  /-- The frames of a worker that nobody stops come out well up to one that breaks. That one is the last. -/
  breaks : ∀ k stop rest n t, (∀ i < k, w.overruns (i + 1) = false) →
    s.Amidst w.threadName (s.Plays w.threadName (List.replicate k .ok ++ Stop.outcome stop :: rest)) n t →
      3 * k + 2 ≤ n → ∃ running, s.Recounts w t ⟨k, running, .gone (.broken stop)⟩
  /-- The first rest that overruns the clock is the last. -/
  overruns : ∀ k rest n t, (∀ i < k, w.overruns (i + 1) = false) → w.overruns (k + 1) = true →
    s.Amidst w.threadName (s.Plays w.threadName (List.replicate (k + 1) .ok ++ rest)) n t →
      3 * k + 3 ≤ n → ∃ running, s.Recounts w t ⟨k + 1, running, .gone .overrun⟩
  /-- A rest ends in time if it ends within `2 ^ 63` seconds of the clock. -/
  timed : ∀ count, w.overruns count = false ↔ w.clock count + w.pacer.interval < Nat.pow 2 63 * 1000000000
  /-- At a closed gate the attempt is no call. -/
  withheld : ∀ t count running, s.Recounts w t ⟨count, running, .rendering⟩ → t.gate.ready = false →
    s.Recounts w t.step ⟨count, running, .gone .withheld⟩
  /-- A worker that is asked to end leaves, behind one more frame at most. -/
  stops : ∀ t story, s.Recounts w t story → story.running = false →
    ∀ n u, t.Amidst w.threadName (fun _ => True) n u → story.stepsLeft ≤ n →
      ∃ count leaving, story.Ends w count leaving ∧ s.Recounts w u ⟨count, false, .gone leaving⟩
  final : ∀ t count running leaving, s.Recounts w t ⟨count, running, .gone leaving⟩ →
    ∀ n u, t.Amidst w.threadName (fun _ => True) n u →
      ∃ later, s.Recounts w u ⟨count, later, .gone leaving⟩
  untouched : ∀ (t : Session E H) n, t.gate.Alike (t.steps n).gate
  joined : ∀ t story, s.Recounts w t story → ∃ count leaving u,
    t.takeWorker = (some (Story.worker w ⟨count, false, .gone leaving⟩, leaving.ending), u) ∧
      s.Joins w t u story count leaving
  /-- A controller that ends the worker notes why it had ended. -/
  noted : ∀ (c : Controller E H) k story, s.Recounts w (c.session.steps (k.pace .stopping)) story →
    ∃ count leaving d, Control.endWorker k c = .ok () d ∧ d.lastEnding = some leaving.ending ∧
      s.Joins w (c.session.steps (k.pace .stopping)) d.session story count leaving
  /-- The frames whose index is a multiple of the heartbeat are told, as long as their number fits the counter. -/
  counted : ∀ story : Story, story.count < Pacer.countLimit →
    (story.worker w).pacer.frames = story.count ∧
      w.heartbeats story.count =
        ((List.range story.count).filter fun index => 0 < w.heartbeat ∧ index % w.heartbeat = 0).map
          fun index => ⟨.info, s!"render worker {w.cycle}: frame {index}"⟩
  /-- The last line of a worker says why it left, and behind how many frames. -/
  reported : ∀ count running leaving, count < Pacer.countLimit → leaving ≠ .overrun →
    Story.lines w ⟨count, running, .gone leaving⟩ = w.heartbeats count ++ leaving.complaints w ++
      [⟨.info, s!"render worker {w.cycle} stopped ({leaving.ending.shown}) after {count} frames"⟩]
  /-- Before that it says what a frame failed with, or what it panicked with. -/
  failed : ∀ why, (Leaving.broken (.failed why)).complaints w =
    [⟨.error, s!"render worker {w.cycle}: {(GateError.render why).message}; "
      ++ "rendering stops until the next surface change"⟩]
  panicked : ∀ panic, (Leaving.broken (.panicked panic)).complaints w =
    [⟨.error, s!"render worker {w.cycle}: frame panicked: {panic.message}; "
      ++ "rendering stops until the next surface change"⟩]
  /-- A thread that panics in a rest says no more. -/
  unreported : ∀ count running, Story.lines w ⟨count, running, .gone .overrun⟩ = w.heartbeats count

end Session

theorem Worker.overruns_iff {w : Worker} {count : Nat} :
    w.overruns count = false ↔ w.clock count + w.pacer.interval < Nat.pow 2 63 * 1000000000 :=
  decide_eq_false_iff_not.trans Nat.not_le

theorem Worker.heartbeats_of_lt {w : Worker} {count : Nat} (fits : count < Pacer.countLimit) :
    w.heartbeats count = ((List.range count).filter fun index =>
      0 < w.heartbeat ∧ index % w.heartbeat = 0).map w.heartbeatLine := by
  have same : (List.range count).map (· % Pacer.countLimit) = List.range count := by
    refine (List.map_congr_left fun index mem => ?_).trans (List.map_id _)
    exact Nat.mod_eq_of_lt (Nat.lt_trans (List.mem_range.mp mem) fits)
  rw [heartbeats, same]
  congr 2
  funext index
  exact (Bool.decide_and _ _).symm

/-- What a worker says when it leaves depends on no more than its name and its frames. -/
theorem Story.lines_gone {w : Worker} {count : Nat} {running : Bool} {leaving : Leaving}
    (fits : count < Pacer.countLimit) (spoken : leaving ≠ .overrun) :
    Story.lines w ⟨count, running, .gone leaving⟩ = w.heartbeats count ++ leaving.complaints w ++
      [⟨.info, s!"render worker {w.cycle} stopped ({leaving.ending.shown}) after {count} frames"⟩] := by
  have last : (Story.worker w ⟨count, running, .gone leaving⟩).stoppedLine leaving.ending =
      ⟨.info, s!"render worker {w.cycle} stopped ({leaving.ending.shown}) after {count} frames"⟩ := by
    simp only [Worker.stoppedLine, Story.worker, Nat.mod_eq_of_lt fits]
  rw [List.append_assoc, ← last]
  rcases leaving with _ | _ | ⟨_ | _⟩ | _
  · rfl
  · rfl
  · rfl
  · rfl
  · exact absurd rfl spoken

namespace Session

/-- The render loop does as its stories tell. -/
theorem worker_renders (settings : RenderSettings) (cycle : Nat) (clock : Nat → Nat) {s : Session E H}
    (held : s.worker = some (Worker.new settings cycle clock)) :
    s.Renders (Worker.new settings cycle clock) := by
  have fresh : s.Recounts (Worker.new settings cycle clock) s .start := recounts_start held rfl
  have fine {k : Nat} {rest : List Outcome}
      (timed : ∀ i < k, (Worker.new settings cycle clock).overruns (i + 1) = false) :
      ∀ i < k, (List.replicate k Outcome.ok ++ rest)[i]? = some .ok ∧
        (Worker.new settings cycle clock).overruns (i + 1) = false := by
    intro i early
    refine ⟨?_, timed i early⟩
    rw [List.getElem?_append_left (by simpa using early), List.getElem?_replicate_of_lt early]
  exact {
    told := fun n t amidst =>
      fresh.induct (I := fun _ => Story.Honest) nofun
        (fun _ _ t _ _ honest => honest.step _ t.gate.ready t.frame) (fun _ _ _ _ => rfl) amidst
    breaks := fun k stop rest n t timed amidst late => by
      obtain ⟨running, recounts⟩ := fresh.plays amidst
      have broken : (List.replicate k .ok ++ stop.outcome :: rest)[k]? = some stop.outcome := by simp
      rw [Story.played_of_gone (Story.played_broken (fine timed) broken) late] at recounts
      exact ⟨running, recounts⟩
    overruns := fun k rest n t timed overrun amidst late => by
      rw [List.replicate_succ', List.append_assoc] at amidst
      obtain ⟨running, recounts⟩ := fresh.plays amidst
      have drawn : (List.replicate k .ok ++ ([.ok] ++ rest))[k]? = some .ok := by simp
      rw [Story.played_of_gone (Story.played_overrun (fine timed) drawn overrun) late] at recounts
      exact ⟨running, recounts⟩
    timed := fun count => Worker.overruns_iff
    withheld := fun t count running recounts closed => by
      have stepped := recounts.step
      rwa [closed] at stepped
    stops := fun t story recounts asked n u amidst enough => recounts.ends asked enough amidst
    final := fun t count running leaving recounts n u amidst => recounts.final amidst
    untouched := fun t n =>
      have still := Unmoved.steps n t
      ⟨still.phase, still.bound, still.ready⟩
    joined := fun t story recounts => recounts.joins
    noted := fun c k story recounts => by
      obtain ⟨count, leaving, u, taken, joins⟩ := recounts.joins
      obtain ⟨said, ended⟩ := Controller.endWorker_eq taken
      exact ⟨count, leaving, _, ended, rfl, joins.say said⟩
    counted := fun story fits => ⟨Nat.mod_eq_of_lt fits, Worker.heartbeats_of_lt fits⟩
    reported := fun count running leaving fits spoken => Story.lines_gone fits spoken
    failed := fun _ => rfl
    panicked := fun _ => rfl
    unreported := fun count running => List.append_nil _ }

/-- The default settings, but for the rest. -/
def restingFor (interval : Nat) : RenderSettings :=
  { RenderSettings.default with interval }

/-- A cycle is up; the second frame of its worker will be lost. The clock always shows the same. -/
def losing (interval now : Nat) : Session Script.engine Unit :=
  ((Controller.new ⟨none, [], [], [], [.ok, .failed (.of "lost")], .ok, none⟩ (restingFor interval) :
    Controller Script.engine Unit).run
      [.called { Conditions.calm with clock := fun _ => now }
        (.sized ⟨800, 600⟩ (1 : Nat) (.ofRead fun path => .error (.of path)))]).session

theorem worker_losing (interval now : Nat) :
    (losing interval now).worker = some (Worker.new (restingFor interval) 1 fun _ => now) := by
  with_unfolding_all rfl

/-- The engine hears of a key when the worker is about to draw its first frame. -/
theorem worker_renders_losing :
    let w := Worker.new (restingFor 16) 1 fun _ => 0
    let s := losing 16 0
    let pressed := stateOf (Gate.feed .host (.key .down 4) s.step)
    s.worker = some w ∧ (∀ i < 1, w.overruns (i + 1) = false) ∧
      s.Amidst w.threadName (s.Plays w.threadName [.ok, .failed (.of "lost")]) 5 (pressed.steps 4) ∧
      ∃ running, s.Recounts w (pressed.steps 4) ⟨1, running, .gone (.broken (.failed (.of "lost")))⟩ := by
  intro w s pressed
  have held : s.worker = some w := worker_losing 16 0
  have early : 0 + (restingFor 16).interval < Nat.pow 2 63 * 1000000000 := by decide +kernel
  have timed : ∀ i < 1, w.overruns (i + 1) = false := fun _ _ => Worker.overruns_iff.mpr early
  have first : s.Amidst w.threadName (s.Plays w.threadName [.ok, .failed (.of "lost")]) 1 s.step :=
    .stepped .begun (by decide +kernel)
  have other : Thread.host ≠ .worker w.threadName := nofun
  have heard : s.step.Beside w.threadName pressed := Beside.feed other (.key .down 4) s.step
  have amidst : s.Amidst w.threadName (s.Plays w.threadName [.ok, .failed (.of "lost")]) 5 (pressed.steps 4) :=
    (Amidst.beside first heard).steps (m := 4) (by decide +kernel)
  exact ⟨held, timed, amidst, (worker_renders _ 1 _ held).breaks 1
    (.failed (.of "lost")) [] 5 _ timed amidst (by decide)⟩

/-- On a clock that shows one second, a rest of one second less than it can name is too long: the frame that
would be lost never comes. The gate is open all the while, and nobody asks the worker to end. -/
theorem losing_overruns :
    let interval := (Nat.pow 2 63 - 1) * Pacer.nanosPerSecond
    let w := Worker.new (restingFor interval) 1 fun _ => Pacer.nanosPerSecond
    let s := losing interval Pacer.nanosPerSecond
    interval < Nat.pow 2 63 * Pacer.nanosPerSecond ∧ s.worker = some w ∧
      s.Amidst w.threadName (s.Plays w.threadName [.ok, .failed (.of "lost")]) 5 (s.steps 5) ∧
      Recorded (.worker w.threadName) s (s.steps 5) [(.render, .ok)] (w.heartbeats 1) ∧
      (s.steps 5).takeWorker.1.map Prod.snd = some .panicked := by
  intro interval w s
  have short : interval < Nat.pow 2 63 * Pacer.nanosPerSecond := by decide +kernel
  have held : s.worker = some w := worker_losing interval _
  have amidst : s.Amidst w.threadName (s.Plays w.threadName [.ok, .failed (.of "lost")]) 5 (s.steps 5) :=
    Amidst.begun.steps (m := 5) (by decide +kernel)
  have late : w.overruns 1 = true := by decide +kernel
  have fresh : s.Recounts w s .start := recounts_start held rfl
  obtain ⟨running, recounts⟩ := fresh.plays amidst
  have died : Story.played w [.ok, .failed (.of "lost")] 3 = ⟨1, true, .gone .overrun⟩ :=
    Story.played_overrun (k := 0) nofun rfl late
  rw [Story.played_of_gone died (by decide)] at recounts
  have told : Story.lines w ⟨1, running, .gone .overrun⟩ = w.heartbeats 1 := List.append_nil _
  have recorded := recounts.recorded
  rw [told] at recorded
  exact ⟨short, held, amidst, recorded, by decide +kernel⟩

end Session
end SurfaceGate
