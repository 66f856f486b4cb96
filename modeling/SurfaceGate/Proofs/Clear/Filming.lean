import SurfaceGate.Proofs.Clear.Frames
import SurfaceGate.Proofs.Desktop.Environment

/-!
The frames of a worker that clears the window.

Behind each step that a worker takes undisturbed, the acquisitions so far tell all that the engine has asked of the
graphics system, and how far its count of frames has come. The worker goes on through every acquisition that brings
no frame, and ends with the first for which there is no memory.
-/

namespace SurfaceGate.Clear

open Graphics (System Acquisition Configuration Color)

variable {system : System} {H : Type}

/-- What has come of these acquisitions since `s`. -/
structure Reckons (c : Configuration) (outcomes : List Acquisition) (s t : Session (engine system) H) : Prop where
  bound : State.Bound t.gate.engine c
  asks : ∃ frames, Asks c outcomes frames ∧ s.Acted t frames.flatten
  acquisitions :
    (State.usage t.gate.engine).acquisitions = (State.usage s.gate.engine).acquisitions + outcomes.length
  /-- A frame that there was memory for is counted, shown or not. -/
  frame : State.frame t.gate.engine =
    State.frame s.gate.engine + UInt64.ofNat (outcomes.countP (· ≠ .outOfMemory))

namespace Reckons

variable {c : Configuration} {outcomes : List Acquisition} {s t u : Session (engine system) H}

theorem start (bound : State.Bound s.gate.engine c) : Reckons c [] s s where
  bound := bound
  asks := ⟨[], .nil, .none rfl⟩
  acquisitions := rfl
  frame := (UInt64.add_zero _).symm

/-- Nothing was asked of the system. -/
theorem still (reckons : Reckons c outcomes s t) (framed : State.Framed t.gate.engine u.gate.engine)
    (acted : t.Acted u []) : Reckons c outcomes s u where
  bound := ⟨framed.device.trans reckons.bound.device, framed.surface.trans reckons.bound.surface⟩
  asks := by
    obtain ⟨frames, asks, since⟩ := reckons.asks
    exact ⟨frames, asks, since.still acted⟩
  acquisitions := framed.acquisitions.trans reckons.acquisitions
  frame := framed.frame.trans reckons.frame

theorem same (reckons : Reckons c outcomes s t) (engine : u.gate.engine = t.gate.engine)
    (acted : t.Acted u []) : Reckons c outcomes s u :=
  reckons.still (engine ▸ ⟨rfl, rfl, rfl, rfl⟩) acted

theorem attended {name : String} (reckons : Reckons c outcomes s t) (others : t.Attends name u) :
    Reckons c outcomes s u := by
  cases others.engine with
  | inl quiet => exact reckons.same quiet.1 quiet.2
  | inr heard =>
      obtain ⟨event, engine, acted⟩ := heard
      have framed := framed_input event t.gate.engine
      rw [show ((Clear.engine system).input event t.gate.engine).2.filterMap Deed.effect? = []
        from effects_input event t.gate.engine] at acted
      exact reckons.still (engine ▸ framed) acted

end Reckons

/-- What an attempt at a frame does: the acquisition decides. -/
structure Attempts (c : Configuration) (outcome : Acquisition) (t u : Session (engine system) H) : Prop where
  acted : ∃ color, t.Acted u (asked c color outcome)
  engine : u.gate.engine = if outcome = .outOfMemory then State.acquired t.gate.engine
    else (State.acquired t.gate.engine).counted
  ready : u.gate.ready = true
  frame : t.frame = if outcome = .outOfMemory then .failed spent else .ok

theorem attempts {t : Session (engine system) H} {c : Configuration} (ready : t.gate.ready = true)
    (bound : State.Bound t.gate.engine c) (w : Worker) :
    Attempts c (system.acquire (State.usage t.gate.engine).acquisitions) t (t.attempt w) := by
  obtain ⟨deeds, effects, rendered⟩ := @render_eq system _ c bound
  have drawn : (engine system).render ⟨t.gate.engine, []⟩ = _ := rendered
  by_cases last : system.acquire (State.usage t.gate.engine).acquisitions = .outOfMemory
  · rw [if_pos last] at drawn
    let closed := t.close (.worker w.threadName) .render (.failed spent) ⟨State.acquired t.gate.engine, deeds⟩
    let said := closed.logFrom w (w.failedLine (.render spent))
    have left : t.attempt w = said.leave w .frameFailed := by
      simp only [Session.attempt, Session.render_open _ ready, drawn]
      rfl
    have called : t.Acted closed (deeds.filterMap Deed.effect?) := .call ..
    have silent : closed.Acted (said.leave w .frameFailed) [] :=
      Session.Acted.still (t := said) (.silent rfl rfl) (Session.acted_leave w said .frameFailed)
    rw [left]
    exact {
      acted := ⟨_, effects ▸ called.still silent⟩
      engine := by rw [if_pos last]; rfl
      ready := ready
      frame := by rw [if_pos last, Session.frame, drawn]; rfl }
  · rw [if_neg last] at drawn
    let closed := t.close (.worker w.threadName) .render .ok ⟨(State.acquired t.gate.engine).counted, deeds⟩
    have left : t.attempt w = closed.counted w := by
      simp only [Session.attempt, Session.render_open _ ready, drawn]
      rfl
    have called : t.Acted closed (deeds.filterMap Deed.effect?) := .call ..
    have kept := Session.gate_counted w closed
    rw [left]
    exact {
      acted := ⟨_, effects ▸ called.still (Session.acted_counted w closed)⟩
      engine := by rw [if_neg last, kept]; rfl
      ready := by rw [kept]; exact ready
      frame := by rw [if_neg last, Session.frame, drawn] }

/-- One more acquisition came out. -/
theorem Reckons.attempted {c : Configuration} {outcomes : List Acquisition} {outcome : Acquisition}
    {s t u : Session (engine system) H} (reckons : Reckons c outcomes s t) (attempts : Attempts c outcome t u) :
    Reckons c (outcomes ++ [outcome]) s u where
  bound := by
    rw [attempts.engine]
    split <;> exact ⟨reckons.bound.device, reckons.bound.surface⟩
  asks := by
    obtain ⟨frames, asks, since⟩ := reckons.asks
    obtain ⟨color, acted⟩ := attempts.acted
    refine ⟨_, asks.concat color outcome, ?_⟩
    rw [List.flatten_append, List.flatten_singleton]
    exact since.trans acted
  acquisitions := by
    have more : (State.usage u.gate.engine).acquisitions = (State.usage t.gate.engine).acquisitions + 1 := by
      rw [attempts.engine]
      split <;> rfl
    rw [more, reckons.acquisitions, List.length_append, List.length_singleton, Nat.add_assoc]
  frame := by
    have later : State.frame u.gate.engine =
        State.frame t.gate.engine + UInt64.ofNat ([outcome].countP (· ≠ .outOfMemory)) := by
      rw [attempts.engine, List.countP_singleton]
      split
      · next last =>
          rw [last]
          exact (UInt64.add_zero _).symm
      · next more =>
          rw [if_pos (decide_eq_true more)]
          rfl
    rw [later, reckons.frame, List.countP_append, UInt64.ofNat_add, UInt64.add_assoc]

/-- So far has a worker come in `n` steps that nobody disturbs: every acquisition was one for a frame, there was
memory for all that were drawn, and only for want of memory has it left. -/
structure Filmed (c : Configuration) (w : Worker) (s : Session (engine system) H) (n : Nat)
    (t : Session (engine system) H) (story : Story) : Prop where
  recounts : s.Recounts w t story
  running : story.running = true
  ready : t.gate.ready = true
  paced : story.Paced n
  reckons : Reckons c (State.coming system s.gate.engine story.attempts) s t
  fine : .outOfMemory ∉ State.coming system s.gate.engine story.count
  last : ∀ leaving, story.stretch = .gone leaving → leaving = .broken (.failed spent) ∧
    system.acquire ((State.usage s.gate.engine).acquisitions + story.count) = .outOfMemory

namespace Filmed

variable {c : Configuration} {w : Worker} {s t u : Session (engine system) H} {n : Nat} {story : Story}

theorem start (fresh : s.Recounts w s .start) (ready : s.gate.ready = true)
    (bound : State.Bound s.gate.engine c) : Filmed c w s 0 s .start where
  recounts := fresh
  running := rfl
  ready := ready
  paced := rfl
  reckons := .start bound
  fine := nofun
  last := nofun

theorem attended (filmed : Filmed c w s n t story) (others : t.Attends w.threadName u) :
    Filmed c w s n u story :=
  { filmed with
    recounts := filmed.recounts.attended others
    ready := others.ready.trans filmed.ready
    reckons := filmed.reckons.attended others }

/-- The worker moves in its loop, and the engine is not called. -/
theorem moves {count : Nat} {here next : Stretch} (filmed : Filmed c w s n t ⟨count, true, here⟩) {v : Worker}
    (recounts : s.Recounts w (t.setWorker v) ⟨count, true, next⟩)
    (paced : Story.Paced (n + 1) ⟨count, true, next⟩) (inside : here.isGone = false)
    (within : next.isGone = false) : Filmed c w s (n + 1) (t.setWorker v) ⟨count, true, next⟩ where
  recounts := recounts
  running := rfl
  ready := filmed.ready
  paced := paced
  reckons := by
    have reckons := filmed.reckons
    simp only [Story.attempts, inside] at reckons
    simp only [Story.attempts, within]
    exact reckons.same rfl (.none rfl)
  fine := filmed.fine
  last := by
    rintro _ rfl
    cases within

/-- The acquisition for the next frame comes out. -/
theorem attempt {count : Nat} (filmed : Filmed c w s n t ⟨count, true, .rendering⟩) (v : Worker) :
    Attempts c (system.acquire ((State.usage s.gate.engine).acquisitions + count)) t (t.attempt v) ∧
      Reckons c (State.coming system s.gate.engine (count + 1)) s (t.attempt v) := by
  have here : (State.usage t.gate.engine).acquisitions = (State.usage s.gate.engine).acquisitions + count :=
    filmed.reckons.acquisitions.trans (congrArg _ (State.length_coming system _ count))
  have attempts := attempts filmed.ready filmed.reckons.bound v
  rw [here] at attempts
  have longer := State.coming_succ system s.gate.engine count
  exact ⟨attempts, longer ▸ filmed.reckons.attempted attempts⟩

theorem step (timed : ∀ count, w.overruns count = false) (filmed : Filmed c w s n t story) :
    ∃ later, Filmed c w s (n + 1) t.step later := by
  have recounts := filmed.recounts.step
  have paced := filmed.paced.step (timed story.count) filmed.running t.frame
  rw [filmed.ready] at recounts
  have taken : t.step = t.stepOf (story.worker w) := by
    simp only [Session.step, filmed.recounts.worker]
  refine ⟨story.step w true t.frame, ?_⟩
  obtain ⟨count, running, stretch⟩ := story
  cases filmed.running
  cases stretch with
  | checking =>
      rw [taken] at recounts ⊢
      exact filmed.moves recounts paced rfl rfl
  | resting =>
      have rested : Story.step w true t.frame ⟨count, true, .resting⟩ = ⟨count, true, .checking⟩ :=
        if_neg (by simp [timed])
      rw [taken, Session.stepOf_resting rfl, rested] at recounts
      rw [rested] at paced
      rw [taken, Session.stepOf_resting rfl, rested]
      exact filmed.moves recounts paced rfl rfl
  | gone leaving =>
      have same : t.step = t := taken.trans (Session.stepOf_of_ended (Story.hasEnded_worker w _) t)
      rw [same] at recounts ⊢
      exact { filmed with recounts, paced }
  | rendering =>
      obtain ⟨attempts, reckons⟩ := filmed.attempt (Story.worker w ⟨count, true, .rendering⟩)
      have frame := attempts.frame
      change t.step = t.attempt _ at taken
      rw [taken] at recounts ⊢
      by_cases last : system.acquire ((State.usage s.gate.engine).acquisitions + count) = .outOfMemory
      · rw [if_pos last] at frame
        rw [frame] at recounts paced ⊢
        refine ⟨recounts, rfl, attempts.ready, paced, reckons, filmed.fine, ?_⟩
        rintro _ ⟨⟩
        exact ⟨rfl, last⟩
      · rw [if_neg last] at frame
        rw [frame] at recounts paced ⊢
        refine ⟨recounts, rfl, attempts.ready, paced, reckons, ?_, ?_⟩
        · have longer := State.coming_succ system s.gate.engine count
          change _ ∉ State.coming system s.gate.engine (count + 1)
          rw [longer, List.mem_append, List.mem_singleton]
          exact not_or.mpr ⟨filmed.fine, Ne.symm last⟩
        · rintro _ ⟨⟩

theorem run (timed : ∀ count, w.overruns count = false) (filmed : Filmed c w s 0 s .start)
    (undisturbed : s.Undisturbed w.threadName n t) : ∃ story, Filmed c w s n t story := by
  induction undisturbed with
  | begun => exact ⟨.start, filmed⟩
  | stepped _ ih =>
      obtain ⟨story, filmed⟩ := ih
      exact filmed.step timed
  | attended _ others ih =>
      obtain ⟨story, filmed⟩ := ih
      exact ⟨story, filmed.attended others⟩

theorem goesOn (filmed : Filmed c w s n t story)
    (fine : .outOfMemory ∉ State.coming system s.gate.engine ((n + 1) / 3)) :
    s.Recounts w t story ∧ story.Inside ∧ story.count = (n + 1) / 3 ∧
      Reckons c (State.coming system s.gate.engine ((n + 1) / 3)) s t := by
  have inside : story.Inside := by
    refine Bool.eq_false_iff.mpr fun gone => fine ?_
    obtain ⟨count, running, stretch⟩ := story
    cases stretch with
    | checking | rendering | resting => cases gone
    | gone leaving =>
        have late : 3 * count + 2 ≤ n := filmed.paced
        exact State.mem_coming.mpr ⟨count, by omega, (filmed.last leaving rfl).2⟩
  have counted := filmed.paced.count_eq inside
  have attempts : story.attempts = story.count := by
    rw [Story.attempts, inside]
    rfl
  have reckons := filmed.reckons
  rw [attempts, counted] at reckons
  exact ⟨filmed.recounts, inside, counted, reckons⟩

theorem ends {k : Nat} (filmed : Filmed c w s n t story)
    (fine : .outOfMemory ∉ State.coming system s.gate.engine k)
    (last : system.acquire ((State.usage s.gate.engine).acquisitions + k) = .outOfMemory)
    (late : 3 * k + 2 ≤ n) :
    s.Recounts w t ⟨k, true, .gone (.broken (.failed spent))⟩ ∧
      Reckons c (State.coming system s.gate.engine (k + 1)) s t := by
  have drawn : story.count ≤ k :=
    Nat.le_of_not_lt fun more => filmed.fine (State.mem_coming.mpr ⟨k, more, last⟩)
  have gone : ¬ story.Inside := by
    intro inside
    have counted := filmed.paced.count_eq inside
    omega
  obtain ⟨count, running, stretch⟩ := story
  cases stretch with
  | checking | rendering | resting => exact absurd rfl gone
  | gone leaving =>
      obtain ⟨rfl, broken⟩ := filmed.last leaving rfl
      have all : k ≤ count :=
        Nat.le_of_not_lt fun fewer => fine (State.mem_coming.mpr ⟨count, fewer, broken⟩)
      cases Nat.le_antisymm drawn all
      cases filmed.running
      exact ⟨filmed.recounts, filmed.reckons⟩

end Filmed

/-- What the frames of the worker `w` come to that nobody disturbs from `s` on. -/
structure Films (c : Configuration) (w : Worker) (s : Session (engine system) H) : Prop where
  /-- While there is memory, one frame follows another. -/
  goesOn : ∀ n t, s.Undisturbed w.threadName n t →
    .outOfMemory ∉ State.coming system s.gate.engine ((n + 1) / 3) →
      ∃ story : Story, s.Recounts w t story ∧ story.Inside ∧ story.count = (n + 1) / 3 ∧
        Reckons c (State.coming system s.gate.engine ((n + 1) / 3)) s t
  /-- The first acquisition that there is no memory for is the last one. -/
  ends : ∀ n t k, s.Undisturbed w.threadName n t → .outOfMemory ∉ State.coming system s.gate.engine k →
    system.acquire ((State.usage s.gate.engine).acquisitions + k) = .outOfMemory → 3 * k + 2 ≤ n →
      s.Recounts w t ⟨k, true, .gone (.broken (.failed spent))⟩ ∧
        Reckons c (State.coming system s.gate.engine (k + 1)) s t ∧
        ∃ v u, t.takeWorker = (some (v, .frameFailed), u)
  accounts : ∀ outcomes t requests, Reckons c outcomes s t → s.Acted t requests →
    Accounts c outcomes requests
  /-- The configuration is the one that the surface was made with. -/
  made : ∀ settings turns,
    ((Controller.new State.new settings : Controller (engine system) H).run turns).session = s →
      s.journal.calls.findSome? made? = some c
  /-- No environment sets an interval at which a rest could overrun the clock, as long as the clock has not come
  half its way. -/
  timely : ∀ vars now, now < Nat.pow 2 62 * Pacer.nanosPerSecond →
    now + (Desktop.Settings.ofVariables vars).rendering.interval < Pacer.timeLimit

/-- The frames of a worker end with the first that there is no memory for, and with no other. -/
theorem worker_films (settings : RenderSettings) (cycle : Nat) (clock : Nat → Nat) {c : Configuration}
    {s : Session (engine system) H} (held : s.worker = some (Worker.new settings cycle clock))
    (timely : ∀ count, clock count + settings.interval < Pacer.timeLimit) (ready : s.gate.ready = true)
    (bound : State.Bound s.gate.engine c) :
    Films c (Worker.new settings cycle clock) s := by
  have timed (count : Nat) : (Worker.new settings cycle clock).overruns count = false :=
    decide_eq_false (Nat.not_le.mpr (timely count))
  have start : Filmed c (Worker.new settings cycle clock) s 0 s .start :=
    .start (Session.recounts_start held rfl) ready bound
  exact {
    goesOn := fun n t undisturbed fine => by
      obtain ⟨story, filmed⟩ := start.run timed undisturbed
      exact ⟨story, filmed.goesOn fine⟩
    ends := fun n t k undisturbed fine last late => by
      obtain ⟨story, filmed⟩ := start.run timed undisturbed
      obtain ⟨recounts, reckons⟩ := filmed.ends fine last late
      obtain ⟨count, leaving, u, taken, joins⟩ := recounts.joins
      cases joins.ends
      exact ⟨recounts, reckons, _, u, taken⟩
    accounts := fun outcomes t requests reckons acted => by
      obtain ⟨frames, asks, since⟩ := reckons.asks
      exact acted.unique since ▸ asks.accounts
    made := fun settings turns same => by
      have made : AsMade ((Controller.new State.new settings : Controller (engine system) H).run turns).session :=
        stable_asMade.run (c := Controller.new State.new settings) nofun turns
      rw [same] at made
      exact made c bound.surface
    timely := fun vars now early =>
      Nat.lt_of_lt_of_le (Nat.add_lt_add early (Desktop.Settings.interval_lt vars)) (by decide +kernel) }

/-- A graphics system that has memory for two frames, and loses the surface at the second. -/
def sparing : System where
  adapter _ := .ok "adapter"
  device _ := .ok ()
  surface _ := .ok ⟨[.rgba8Unorm], []⟩
  acquire n := if n = 0 then .ok else if n = 1 then .lost else .outOfMemory

/-- A cycle is up. -/
def filming : Session (engine sparing) Unit :=
  ((Controller.new State.new .default : Controller (engine sparing) Unit).run
    [.called .calm (.sized ⟨800, 600⟩ (0 : Nat) (.ofRead fun path => .error (.of path)))]).session

/-- The engine hears of a key when the worker is about to draw its first frame. -/
theorem worker_films_sparing :
    let w := Worker.new .default 1 fun _ => 0
    let c := Graphics.configurationFor .rgba8Unorm .auto ⟨800, 600⟩
    let pressed := stateOf (Gate.feed .host (.key .down 4) filming.step)
    filming.worker = some w ∧ (∀ count, w.clock count + RenderSettings.default.interval < Pacer.timeLimit) ∧
      filming.gate.ready = true ∧ State.Bound filming.gate.engine c ∧
      filming.Undisturbed w.threadName 8 (pressed.steps 7) ∧
      filming.Recounts w (pressed.steps 7) ⟨2, true, .gone (.broken (.failed spent))⟩ ∧
      Reckons c [.ok, .lost, .outOfMemory] filming (pressed.steps 7) := by
  intro w c pressed
  have held : filming.worker = some w := by with_unfolding_all rfl
  have early : 0 + RenderSettings.default.interval < Pacer.timeLimit := by decide +kernel
  have timely : ∀ count, w.clock count + RenderSettings.default.interval < Pacer.timeLimit := fun _ => early
  have ready : filming.gate.ready = true := by decide +kernel
  have bound : State.Bound filming.gate.engine c := ⟨by decide +kernel, by decide +kernel⟩
  have other : Thread.host ≠ .worker w.threadName := nofun
  have first : filming.Undisturbed w.threadName 1 pressed := .attended (.stepped .begun) (.fed other (.key .down 4))
  have undisturbed : filming.Undisturbed w.threadName 8 (pressed.steps 7) := first.steps 7
  have films := worker_films .default 1 _ held timely ready bound
  have coming : State.coming sparing filming.gate.engine 3 = [.ok, .lost, .outOfMemory] := by decide +kernel
  have ended := films.ends 8 _ 2 undisturbed (by decide +kernel) (by decide +kernel) (by decide)
  rw [coming] at ended
  exact ⟨held, timely, ready, bound, undisturbed, ended.1, ended.2.1⟩

end SurfaceGate.Clear
