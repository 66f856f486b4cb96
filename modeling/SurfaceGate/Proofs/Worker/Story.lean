import SurfaceGate.Proofs.Outline.Worker

/-!
The story of a worker.

What a worker has done is told by its *story*: how many frames it has drawn, whether it was asked to end, and
where it is in its loop or why it left. The calls and the lines of its thread follow from that. A step of the
worker takes its story a step further, as the gate, the next frame and the clock have it.
-/

namespace SurfaceGate

variable {E : Engine} {H : Type}

namespace Entry

/-- The call of a thread, with its outcome. -/
def callBy? (thread : Thread) : Entry E H → Option (Call E.Surface × Outcome)
  | .call record => if record.thread = thread then some (record.call, record.outcome) else none
  | _ => none

def lineBy? (thread : Thread) : Entry E H → Option Log.Line
  | .line writer said => if writer = thread then some said else none
  | _ => none

end Entry

namespace Journal

/-- Oldest first. -/
def callsBy (thread : Thread) (journal : Journal E H) : List (Call E.Surface × Outcome) :=
  (journal.filterMap (Entry.callBy? thread)).reverse

/-- Oldest first. -/
def linesBy (thread : Thread) (journal : Journal E H) : List Log.Line :=
  (journal.filterMap (Entry.lineBy? thread)).reverse

theorem callsBy_append (thread : Thread) (newer older : Journal E H) :
    callsBy thread (newer ++ older) = callsBy thread older ++ callsBy thread newer := by
  simp only [callsBy, List.filterMap_append, List.reverse_append]

theorem linesBy_append (thread : Thread) (newer older : Journal E H) :
    linesBy thread (newer ++ older) = linesBy thread older ++ linesBy thread newer := by
  simp only [linesBy, List.filterMap_append, List.reverse_append]

end Journal

namespace Session

theorem counted_eq (w : Worker) (s : Session E H) :
    s.counted w =
      (if w.isHeartbeat w.pacer.frames then s.logFrom w (w.heartbeatLine w.pacer.frames)
        else s).setWorker
          { w with pacer := w.pacer.advance.2, clock := fun n => w.clock (n + 1), place := .resting } :=
  rfl

theorem stepOf_resting {w : Worker} (resting : w.place = .resting) (s : Session E H) :
    s.stepOf w = s.setWorker
      { w with place := if w.pacer.overruns (w.clock 0) then .died restOverflow else .checking } := by
  simp only [stepOf, resting, Pacer.rest]
  cases w.pacer.overruns (w.clock 0) with
  | true => rfl
  | false => cases w.running <;> rfl

theorem stepOf_of_ended {w : Worker} (ended : w.hasEnded = true) (s : Session E H) : s.stepOf w = s := by
  simp only [stepOf]
  cases place : w.place with
  | checking | rendering | resting => simp [Worker.hasEnded, Place.ending?, place] at ended
  | left _ | died _ => rfl

/-- The calls and the lines of a thread from `s` to `t`. -/
def Recorded (thread : Thread) (s t : Session E H) (calls : List (Call E.Surface × Outcome))
    (lines : List Log.Line) : Prop :=
  ∃ since : Journal E H, t.journal = since ++ s.journal ∧ since.callsBy thread = calls ∧
    since.linesBy thread = lines

namespace Recorded

variable {thread : Thread} {s t u : Session E H} {calls more : List (Call E.Surface × Outcome)}
  {lines further : List Log.Line}

theorem none (same : t.journal = s.journal) : Recorded thread s t [] [] :=
  ⟨[], same, rfl, rfl⟩

theorem entry (thread : Thread) {entry : Entry E H} (written : t.journal = entry :: s.journal) :
    Recorded thread s t (entry.callBy? thread).toList (entry.lineBy? thread).toList := by
  refine ⟨[entry], written, ?_, ?_⟩
  · cases made : entry.callBy? thread <;> simp [Journal.callsBy, made]
  · cases said : entry.lineBy? thread <;> simp [Journal.linesBy, said]

theorem line {said : Log.Line} (written : t.journal = .line thread said :: s.journal) :
    Recorded thread s t [] [said] := by
  simpa [Entry.callBy?, Entry.lineBy?] using Recorded.entry thread written

theorem call (call : Call E.Surface) (outcome : Outcome) (p : Performance E.State E.Effect) :
    Recorded thread s (s.close thread call outcome p) [(call, outcome)] [] := by
  have made : (s.close thread call outcome p).journal = _ :: s.journal := rfl
  simpa [Entry.callBy?, Entry.lineBy?] using Recorded.entry thread made

theorem aside {entry : Entry E H} (written : t.journal = entry :: s.journal)
    (uncalled : entry.callBy? thread = .none) (unsaid : entry.lineBy? thread = .none) :
    Recorded thread s t [] [] := by
  have recorded := Recorded.entry thread written
  rwa [uncalled, unsaid] at recorded

theorem trans (first : Recorded thread s t calls lines) (next : Recorded thread t u more further) :
    Recorded thread s u (calls ++ more) (lines ++ further) := by
  obtain ⟨since, grown, rfl, rfl⟩ := first
  obtain ⟨later, further, rfl, rfl⟩ := next
  refine ⟨later ++ since, ?_, Journal.callsBy_append .., Journal.linesBy_append ..⟩
  rw [further, grown, List.append_assoc]

theorem counted (w : Worker) (s : Session E H) :
    Recorded (.worker w.threadName) s (s.counted w) []
      (if w.isHeartbeat w.pacer.frames then [w.heartbeatLine w.pacer.frames] else []) := by
  rw [counted_eq]
  split
  · exact line rfl
  · exact none rfl

/-- Nothing came behind it. -/
theorem still (first : Recorded thread s t calls lines) (next : Recorded thread t u [] []) :
    Recorded thread s u calls lines := by
  simpa only [List.append_nil] using first.trans next

theorem length_calls (recorded : Recorded thread s t calls lines) :
    (t.journal.callsBy thread).length - (s.journal.callsBy thread).length = calls.length := by
  obtain ⟨since, grown, rfl, -⟩ := recorded
  rw [grown, Journal.callsBy_append, List.length_append, Nat.add_sub_cancel_left]

end Recorded
end Session

/-- Why a worker leaves its loop. -/
inductive Leaving where
  | stopped
  /-- The gate was closed when it came to draw. -/
  | withheld
  | broken (stop : Stop)
  /-- The clock cannot name the end of the rest behind its last frame, and the thread ends with a panic. -/
  | overrun
  deriving DecidableEq, Repr

namespace Leaving

def ending : Leaving → Ending
  | .stopped => .stopped
  | .withheld => .gateClosed
  | .broken (.failed _) => .frameFailed
  | .broken (.panicked _) | .overrun => .panicked

def place : Leaving → Place
  | .overrun => .died restOverflow
  | leaving => .left leaving.ending

/-- The call that a worker leaves behind. -/
def calls {S : Type} : Leaving → List (Call S × Outcome)
  | .stopped | .withheld | .overrun => []
  | .broken stop => [(.render, stop.outcome)]

/-- What a worker says of a frame that broke. -/
def complaints (w : Worker) : Leaving → List Log.Line
  | .stopped | .withheld | .overrun => []
  | .broken (.failed why) => [w.failedLine (.render why)]
  | .broken (.panicked panic) => [w.panickedLine panic]

/-- The last line of a worker. A thread that panics in a rest leaves none. -/
def farewell (w : Worker) : Leaving → List Log.Line
  | .overrun => []
  | leaving => [w.stoppedLine leaving.ending]

def lines (w : Worker) (leaving : Leaving) : List Log.Line :=
  leaving.complaints w ++ leaving.farewell w

theorem ending?_place (leaving : Leaving) : leaving.place.ending? = some leaving.ending := by
  cases leaving <;> rfl

end Leaving

/-- Where a worker is in its loop. -/
inductive Stretch where
  | checking
  | rendering
  | resting
  | gone (leaving : Leaving)
  deriving DecidableEq, Repr

namespace Stretch

def isGone : Stretch → Bool
  | .gone _ => true
  | _ => false

def place : Stretch → Place
  | .checking => .checking
  | .rendering => .rendering
  | .resting => .resting
  | .gone leaving => leaving.place

def calls {S : Type} : Stretch → List (Call S × Outcome)
  | .gone leaving => leaving.calls
  | _ => []

def lines (w : Worker) : Stretch → List Log.Line
  | .gone leaving => leaving.lines w
  | _ => []

end Stretch

/-- Whether the clock cannot name the end of the rest behind that many frames. -/
def Worker.overruns (w : Worker) (count : Nat) : Bool :=
  w.pacer.overruns (w.clock count)

/-- The heartbeats of the first frames. The counter of frames has a limit, and starts again behind it. -/
def Worker.heartbeats (w : Worker) (count : Nat) : List Log.Line :=
  (((List.range count).map (· % Pacer.countLimit)).filter w.isHeartbeat).map w.heartbeatLine

theorem Worker.heartbeats_succ (w : Worker) (count : Nat) :
    w.heartbeats (count + 1) = w.heartbeats count ++
      if w.isHeartbeat (count % Pacer.countLimit) then [w.heartbeatLine (count % Pacer.countLimit)]
      else [] := by
  simp only [heartbeats, List.range_succ, List.map_append, List.filter_append]
  split <;> simp_all

/-- How far a worker has come. -/
structure Story where
  /-- The frames that were drawn. -/
  count : Nat
  /-- Cleared when the worker is asked to end. -/
  running : Bool
  stretch : Stretch
  deriving DecidableEq, Repr

namespace Story

def start : Story := ⟨0, true, .checking⟩

/-- The worker `w` behind the story. -/
def worker (w : Worker) (story : Story) : Worker :=
  { w with
    pacer := { w.pacer with frames := story.count % Pacer.countLimit }
    clock := fun n => w.clock (n + story.count)
    running := story.running
    place := story.stretch.place }

theorem hasEnded_worker (w : Worker) (story : Story) : (story.worker w).hasEnded = story.stretch.isGone := by
  obtain ⟨count, running, stretch⟩ := story
  cases stretch with
  | checking | rendering | resting => rfl
  | gone leaving => exact congrArg Option.isSome leaving.ending?_place

def calls {S : Type} (story : Story) : List (Call S × Outcome) :=
  List.replicate story.count (.render, .ok) ++ story.stretch.calls

def lines (w : Worker) (story : Story) : List Log.Line :=
  w.heartbeats story.count ++ story.stretch.lines (story.worker w)

def askToEnd (story : Story) : Story :=
  { story with running := false }

def leave (leaving : Leaving) (story : Story) : Story :=
  { story with stretch := .gone leaving }

def attempt (story : Story) : Outcome → Story
  | .ok => { story with count := story.count + 1, stretch := .resting }
  | .failed why => story.leave (.broken (.failed why))
  | .panicked panic => story.leave (.broken (.panicked panic))

/-- A step of the worker, at a gate that is open or not, before a frame that would come out so. -/
def step (w : Worker) (ready : Bool) (frame : Outcome) (story : Story) : Story :=
  match story.stretch with
  | .checking =>
      if story.running then { story with stretch := .rendering } else story.leave .stopped
  | .rendering => if ready then story.attempt frame else story.leave .withheld
  | .resting =>
      if w.overruns story.count then story.leave .overrun else { story with stretch := .checking }
  | .gone _ => story

end Story

namespace Session

/-- How the engine's next frame comes out. -/
def frame (s : Session E H) : Outcome :=
  match E.render ⟨s.gate.engine, []⟩ with
  | .ok _ _ => .ok
  | .error stop _ => stop.outcome

/-- In `t`, a story tells of the worker that was set up as `w` in `s`. -/
structure Recounts (w : Worker) (s t : Session E H) (story : Story) : Prop where
  worker : t.worker = some (story.worker w)
  recorded : Recorded (.worker w.threadName) s t story.calls (story.lines w)

theorem recounts_start {s : Session E H} {w : Worker} (held : s.worker = some w)
    (fresh : Story.start.worker w = w) : s.Recounts w s .start where
  worker := held.trans (congrArg some fresh.symm)
  recorded := .none rfl

namespace Recounts

variable {w : Worker} {s t u : Session E H} {story next : Story}

/-- The story goes on by what was recorded since. -/
theorem extend (recounts : s.Recounts w t story) {calls : List (Call E.Surface × Outcome)}
    {lines : List Log.Line} (worker : u.worker = some (next.worker w))
    (since : Recorded (.worker w.threadName) t u calls lines)
    (called : next.calls = story.calls ++ calls) (said : next.lines w = story.lines w ++ lines) :
    s.Recounts w u next := by
  refine ⟨worker, ?_⟩
  rw [called, said]
  exact recounts.recorded.trans since

end Recounts
end Session

namespace Story

variable {w : Worker} {story : Story}

def Inside (story : Story) : Prop :=
  story.stretch.isGone = false

theorem calls_of_inside {S : Type} (inside : story.Inside) :
    story.calls (S := S) = List.replicate story.count (.render, .ok) := by
  obtain ⟨count, running, stretch⟩ := story
  cases stretch with
  | checking | rendering | resting => exact List.append_nil _
  | gone leaving => cases inside

theorem lines_of_inside (inside : story.Inside) : story.lines w = w.heartbeats story.count := by
  obtain ⟨count, running, stretch⟩ := story
  cases stretch with
  | checking | rendering | resting => exact List.append_nil _
  | gone leaving => cases inside

/-- A line of a worker that leaves does not say where it was. -/
theorem lines_leave (inside : story.Inside) (leaving : Leaving) :
    (story.leave leaving).lines w = story.lines w ++ leaving.lines (story.worker w) := by
  rw [lines_of_inside inside]
  rcases leaving with _ | _ | ⟨_ | _⟩ | _ <;> rfl

theorem calls_leave {S : Type} (inside : story.Inside) (leaving : Leaving) :
    (story.leave leaving).calls (S := S) = story.calls ++ leaving.calls := by
  rw [calls_of_inside inside]
  rfl

end Story

namespace Session
namespace Recounts

variable {w : Worker} {s t u : Session E H} {story next : Story}

theorem leaves (recounts : s.Recounts w t story) (inside : story.Inside) {leaving : Leaving}
    (worker : u.worker = some ((story.leave leaving).worker w))
    (since : Recorded (.worker w.threadName) t u leaving.calls (leaving.lines (story.worker w))) :
    s.Recounts w u (story.leave leaving) :=
  recounts.extend worker since (Story.calls_leave inside leaving) (Story.lines_leave inside leaving)

theorem moves (recounts : s.Recounts w t story) (inside : story.Inside) (stretch : Stretch)
    (within : ({ story with stretch } : Story).Inside) :
    s.Recounts w (t.setWorker (({ story with stretch } : Story).worker w))
      { story with stretch } := by
  refine recounts.extend rfl (.none rfl) ?_ ?_
  · rw [Story.calls_of_inside inside, Story.calls_of_inside within, List.append_nil]
  · rw [Story.lines_of_inside inside, Story.lines_of_inside within, List.append_nil]

theorem stops (recounts : s.Recounts w t story) (inside : story.Inside) (leaving : Leaving)
    (uncalled : leaving.calls (S := E.Surface) = [])
    (said : leaving.lines (story.worker w) = [(story.worker w).stoppedLine leaving.ending])
    (place : leaving.place = .left leaving.ending) :
    s.Recounts w (t.leave (story.worker w) leaving.ending) (story.leave leaving) := by
  refine recounts.leaves inside ?_ ?_
  · exact congrArg (fun place => some { story.worker w with place }) place.symm
  · rw [uncalled, said]
    exact .line rfl

/-- The thread ends in a rest, without a word. -/
theorem dies (recounts : s.Recounts w t story) (inside : story.Inside) :
    s.Recounts w (t.setWorker { story.worker w with place := .died restOverflow }) (story.leave .overrun) :=
  recounts.leaves inside rfl (.none rfl)

/-- A frame that breaks is a call, and the worker leaves two lines behind it. -/
theorem breaks (recounts : s.Recounts w t story) (inside : story.Inside) (stop : Stop)
    (p : Performance E.State E.Effect) {said : Log.Line}
    (lines : (Leaving.broken stop).lines (story.worker w) =
      [said, (story.worker w).stoppedLine (Leaving.broken stop).ending]) :
    s.Recounts w
      (((t.close (.worker w.threadName) .render stop.outcome p).logFrom (story.worker w) said).leave
        (story.worker w) (Leaving.broken stop).ending)
      (story.leave (.broken stop)) := by
  refine recounts.leaves inside rfl ?_
  rw [lines]
  have called : Recorded (.worker w.threadName) t _ _ _ := .call .render stop.outcome p
  exact (called.trans (.line rfl)).trans (.line rfl)

theorem draws (recounts : s.Recounts w t story) (inside : story.Inside)
    (p : Performance E.State E.Effect) :
    s.Recounts w ((t.close (.worker w.threadName) .render .ok p).counted (story.worker w))
      (story.attempt .ok) := by
  have drawn : (story.attempt .ok).Inside := rfl
  have called : Recorded (.worker w.threadName) t _ _ _ := .call .render .ok p
  refine recounts.extend ?_ (called.trans (.counted (story.worker w) _)) ?_ ?_
  · have later : (fun n => w.clock (n + 1 + story.count)) = fun n => w.clock (n + (story.count + 1)) :=
      funext fun n => congrArg w.clock (Nat.add_right_comm n 1 story.count)
    rw [counted_eq]
    simp [Session.setWorker, Story.worker, Story.attempt, Pacer.advance, Stretch.place, later]
  · rw [Story.calls_of_inside inside, Story.calls_of_inside drawn]
    exact List.replicate_succ'
  · rw [Story.lines_of_inside inside, Story.lines_of_inside drawn]
    exact w.heartbeats_succ story.count

/-- One step of the worker is one step of its story. -/
theorem step (recounts : s.Recounts w t story) :
    s.Recounts w t.step (story.step w t.gate.ready t.frame) := by
  obtain ⟨count, running, stretch⟩ := story
  have taken : t.step = t.stepOf (Story.worker w ⟨count, running, stretch⟩) := by
    simp only [Session.step, recounts.worker]
  rw [taken]
  cases stretch with
  | checking =>
      cases running with
      | true => exact recounts.moves rfl .rendering rfl
      | false => exact recounts.stops rfl .stopped rfl rfl rfl
  | rendering =>
      change s.Recounts w (t.attempt _) _
      simp only [Session.attempt, Story.step, Session.frame]
      cases ready : t.gate.ready with
      | false =>
          rw [render_closed _ ready]
          exact recounts.stops rfl .withheld rfl rfl rfl
      | true =>
          rw [render_open _ ready]
          rcases E.render ⟨t.gate.engine, []⟩ with ⟨_, p⟩ | ⟨why | panic, p⟩
          · exact recounts.draws rfl p
          · exact recounts.breaks rfl (.failed why) p rfl
          · exact recounts.breaks rfl (.panicked panic) p rfl
  | resting =>
      have here : (Story.worker w ⟨count, running, .resting⟩).clock 0 = w.clock count :=
        congrArg w.clock (Nat.zero_add count)
      rw [stepOf_resting rfl, here]
      change s.Recounts w (t.setWorker { Story.worker w ⟨count, running, .resting⟩ with
        place := if w.overruns count then .died restOverflow else .checking }) _
      simp only [Story.step]
      split
      · exact recounts.dies rfl
      · exact recounts.moves rfl .checking rfl
  | gone leaving =>
      rw [stepOf_of_ended (Story.hasEnded_worker w _)]
      exact recounts

/-- The worker is asked to end. -/
theorem asked (recounts : s.Recounts w t story) (journal : Recorded (.worker w.threadName) t u [] [])
    (worker : u.worker = t.worker.map Worker.askToEnd) : s.Recounts w u story.askToEnd := by
  refine recounts.extend ?_ journal (List.append_nil _).symm ?_
  · rw [worker, recounts.worker]
    rfl
  · rw [List.append_nil]
    obtain ⟨count, running, stretch⟩ := story
    rcases stretch with _ | _ | _ | _ | _ | ⟨_ | _⟩ | _ <;> rfl

end Recounts

end Session
end SurfaceGate
