import SurfaceGate.Lifecycle.Controller
import SurfaceGate.Proofs.Gate.Requests
import SurfaceGate.Proofs.Worker.Story

/-!
A worker among the others.

Between two steps of a worker the others do as they like at the gate, and may ask the worker to end. That changes
nothing of the worker's story but whether it is asked to end, so what each step of the story preserves holds
however the threads take turns. A worker that is asked to end leaves within three steps, behind one more frame at
most, and the join finds why it left.
-/

namespace SurfaceGate

variable {E : Engine} {H : Type}

namespace Session

/-- What others do beside a thread: they may change the gate and ask the worker to end. -/
structure Beside (name : String) (s t : Session E H) : Prop where
  journal : Recorded (.worker name) s t [] []
  worker : t.worker = s.worker ∨ t.worker = s.worker.map Worker.askToEnd

/-- The worker takes a number of steps from `s`, with whatever the others do in between; `P` holds where it
takes one. -/
inductive Amidst (name : String) (P : Session E H → Prop) (s : Session E H) :
    Nat → Session E H → Prop where
  | begun : Amidst name P s 0 s
  | stepped {n : Nat} {t : Session E H} (before : Amidst name P s n t) (here : P t) :
      Amidst name P s (n + 1) t.step
  | beside {n : Nat} {t u : Session E H} (before : Amidst name P s n t) (others : t.Beside name u) :
      Amidst name P s n u

theorem Beside.feed {name : String} {thread : Thread} (other : thread ≠ .worker name)
    (event : Input.Event) (s : Session E H) : s.Beside name (stateOf (Gate.feed thread event s)) := by
  simp only [Gate.feed]
  rw [Act.look]
  split
  · exact ⟨.aside rfl (if_neg other) rfl, .inl rfl⟩
  · exact ⟨.none rfl, .inl rfl⟩

/-- The worker may take several steps on end. -/
theorem Amidst.steps {name : String} {P : Session E H → Prop} {s t : Session E H} {n : Nat}
    (amidst : s.Amidst name P n t) {m : Nat} (along : ∀ i < m, P (t.steps i)) :
    s.Amidst name P (n + m) (t.steps m) := by
  induction m generalizing n t with
  | zero => exact amidst
  | succ m ih =>
      have later := ih (amidst.stepped (along 0 m.succ_pos)) fun i before =>
        along (i + 1) (Nat.succ_lt_succ before)
      rwa [Nat.succ_add_eq_add_succ] at later

theorem Nearing.beside {name : String} {s t : Session E H} {n : Nat} (nearing : s.Nearing n)
    (others : s.Beside name t) : t.Nearing n := by
  intro w held
  rcases others.worker with same | asked
  · exact nearing w (same.symm.trans held)
  · obtain ⟨v, before, rfl⟩ := Option.map_eq_some_iff.mp (asked.symm.trans held)
    exact ⟨rfl, (nearing v before).2⟩

/-- The others do not keep a worker that is asked to end from leaving. -/
theorem Amidst.nearing {name : String} {P : Session E H → Prop} {s t : Session E H} {n m : Nat}
    (nearing : s.Nearing m) (amidst : s.Amidst name P n t) : t.Nearing (m - n) := by
  induction amidst with
  | begun => exact nearing
  | stepped _ _ ih => exact ih.step
  | beside _ others ih => exact ih.beside others

namespace Recounts

variable {w : Worker} {s t u : Session E H} {story : Story}

theorem nearing (recounts : s.Recounts w t story) (asked : story.running = false) :
    t.Nearing story.stretch.place.stepsLeft := by
  intro v held
  cases recounts.worker.symm.trans held
  exact ⟨asked, Nat.le_refl _⟩

/-- What others do does not change a story, but that the worker may be asked to end. -/
theorem beside (recounts : s.Recounts w t story) (others : t.Beside w.threadName u) :
    s.Recounts w u story ∨ s.Recounts w u story.askToEnd := by
  rcases others.worker with same | asked
  · exact .inl (recounts.extend (same.trans recounts.worker) others.journal
      (List.append_nil _).symm (List.append_nil _).symm)
  · exact .inr (recounts.asked others.journal asked)

/-- What a step of the worker preserves of its story, and being asked to end as well, holds however the threads
take turns. -/
theorem induct {P : Session E H → Prop} {I : Nat → Story → Prop} (recounts : s.Recounts w t story)
    (start : I 0 story)
    (step : ∀ n later v, P v → s.Recounts w v later → I n later →
      I (n + 1) (later.step w v.gate.ready v.frame))
    (asked : ∀ n later, I n later → I n later.askToEnd) {n : Nat}
    (amidst : t.Amidst w.threadName P n u) : ∃ later, s.Recounts w u later ∧ I n later := by
  induction amidst with
  | begun => exact ⟨story, recounts, start⟩
  | stepped _ here ih =>
      obtain ⟨later, recounts, holds⟩ := ih
      exact ⟨_, recounts.step, step _ _ _ here recounts holds⟩
  | beside _ others ih =>
      obtain ⟨later, recounts, holds⟩ := ih
      rcases recounts.beside others with same | other
      · exact ⟨later, same, holds⟩
      · exact ⟨_, other, asked _ _ holds⟩

end Recounts
end Session

namespace Story

/-- The worker has left. -/
def Over (count : Nat) (leaving : Leaving) (story : Story) : Prop :=
  story.count = count ∧ story.stretch = .gone leaving

theorem Over.step {count : Nat} {leaving : Leaving} {story : Story} (gone : story.Over count leaving)
    (w : Worker) (ready : Bool) (frame : Outcome) : (story.step w ready frame).Over count leaving := by
  obtain ⟨count, running, stretch⟩ := story
  obtain ⟨rfl, rfl⟩ := gone
  exact ⟨rfl, rfl⟩

/-- How a worker ends that is asked to: it may still draw the frame that it is about to draw, and the rest behind
that is begun before it looks. -/
inductive Ends (w : Worker) : Story → Nat → Leaving → Prop where
  | checking {count : Nat} {running : Bool} : Ends w ⟨count, running, .checking⟩ count .stopped
  | rested {count : Nat} {running : Bool} (timed : w.overruns count = false) :
      Ends w ⟨count, running, .resting⟩ count .stopped
  | overrun {count : Nat} {running : Bool} (late : w.overruns count = true) :
      Ends w ⟨count, running, .resting⟩ count .overrun
  | drawn {count : Nat} {running : Bool} (timed : w.overruns (count + 1) = false) :
      Ends w ⟨count, running, .rendering⟩ (count + 1) .stopped
  | died {count : Nat} {running : Bool} (late : w.overruns (count + 1) = true) :
      Ends w ⟨count, running, .rendering⟩ (count + 1) .overrun
  | withheld {count : Nat} {running : Bool} : Ends w ⟨count, running, .rendering⟩ count .withheld
  | broken {count : Nat} {running : Bool} (stop : Stop) :
      Ends w ⟨count, running, .rendering⟩ count (.broken stop)
  | gone {count : Nat} {running : Bool} {leaving : Leaving} :
      Ends w ⟨count, running, .gone leaving⟩ count leaving

theorem Ends.of_drawn {w : Worker} {drawn count : Nat} {running : Bool} {leaving : Leaving}
    (ends : Ends w ⟨drawn + 1, running, .resting⟩ count leaving) :
    Ends w ⟨drawn, running, .rendering⟩ count leaving := by
  cases ends with
  | rested timed => exact .drawn timed
  | overrun late => exact .died late

theorem Ends.of_step {w : Worker} {story : Story} (asked : story.running = false) {ready : Bool}
    {frame : Outcome} {count : Nat} {leaving : Leaving} (ends : (story.step w ready frame).Ends w count leaving) :
    story.Ends w count leaving := by
  obtain ⟨drawn, running, stretch⟩ := story
  cases asked
  cases stretch with
  | checking =>
      cases ends
      exact .checking
  | rendering =>
      cases ready with
      | false =>
          cases ends
          exact .withheld
      | true =>
          cases frame with
          | ok => exact ends.of_drawn
          | failed why =>
              cases ends
              exact .broken (.failed why)
          | panicked panic =>
              cases ends
              exact .broken (.panicked panic)
  | resting =>
      cases late : w.overruns drawn with
      | true =>
          have left : Story.step w ready frame ⟨drawn, false, .resting⟩ = ⟨drawn, false, .gone .overrun⟩ :=
            if_pos late
          rw [left] at ends
          cases ends
          exact .overrun late
      | false =>
          have rested : Story.step w ready frame ⟨drawn, false, .resting⟩ = ⟨drawn, false, .checking⟩ :=
            if_neg (by simp [late])
          rw [rested] at ends
          cases ends
          exact .rested late
  | gone leaving => exact ends

theorem Ends.of_askToEnd {w : Worker} {story : Story} {count : Nat} {leaving : Leaving}
    (ends : story.askToEnd.Ends w count leaving) : story.Ends w count leaving := by
  obtain ⟨drawn, running, stretch⟩ := story
  cases ends with
  | checking => exact .checking
  | rested timed => exact .rested timed
  | overrun late => exact .overrun late
  | drawn timed => exact .drawn timed
  | died late => exact .died late
  | withheld => exact .withheld
  | broken stop => exact .broken stop
  | gone => exact .gone

theorem running_step (w : Worker) (story : Story) (ready : Bool) (frame : Outcome) :
    (story.step w ready frame).running = story.running := by
  obtain ⟨count, running, stretch⟩ := story
  cases stretch with
  | checking => cases running <;> rfl
  | rendering =>
      cases ready with
      | false => rfl
      | true => cases frame <;> rfl
  | resting =>
      simp only [step]
      split
      · rfl
      · rfl
  | gone _ => rfl

/-- So many steps are left to a worker that is asked to end. -/
def stepsLeft (story : Story) : Nat :=
  story.stretch.place.stepsLeft

/-- Who has ended has left. -/
theorem ends_of_isGone {w : Worker} {story : Story} (gone : story.stretch.isGone = true) :
    ∃ leaving, story.stretch = .gone leaving ∧ story.Ends w story.count leaving := by
  obtain ⟨count, running, stretch⟩ := story
  cases stretch with
  | checking | rendering | resting => cases gone
  | gone leaving => exact ⟨leaving, rfl, .gone⟩

end Story

namespace Session

theorem Amidst.silent {name : String} {P : Session E H → Prop} {s t : Session E H} {n : Nat}
    (free : s.worker = none) (amidst : s.Amidst name P n t) :
    t.worker = none ∧ Recorded (.worker name) s t [] [] := by
  induction amidst with
  | begun => exact ⟨free, .none rfl⟩
  | @stepped _ t _ _ ih =>
      have still : t.step = t := by simp only [Session.step, ih.1]
      rwa [still]
  | beside _ others ih =>
      refine ⟨?_, ih.2.still others.journal⟩
      rcases others.worker with same | asked
      · exact same.trans ih.1
      · rw [asked, ih.1]
        rfl

namespace Recounts

variable {w : Worker} {s t u : Session E H} {story : Story}

/-- The story of a worker that has left is over. -/
theorem final {count : Nat} {running : Bool} {leaving : Leaving}
    (recounts : s.Recounts w t ⟨count, running, .gone leaving⟩) {n : Nat}
    (amidst : t.Amidst w.threadName (fun _ => True) n u) :
    ∃ later, s.Recounts w u ⟨count, later, .gone leaving⟩ := by
  obtain ⟨⟨_, later, _⟩, behind, rfl, rfl⟩ :=
    recounts.induct (I := fun _ => Story.Over count leaving) ⟨rfl, rfl⟩
      (fun _ _ t _ _ gone => gone.step w t.gate.ready t.frame) (fun _ _ => id) amidst
  exact ⟨later, behind⟩

/-- Wherever a worker has come to that was asked to end, it ends as it could have ended from the start. -/
theorem heads (recounts : s.Recounts w t story) (asked : story.running = false) {n : Nat}
    (amidst : t.Amidst w.threadName (fun _ => True) n u) :
    ∃ later, s.Recounts w u later ∧ later.running = false ∧
      ∀ count leaving, later.Ends w count leaving → story.Ends w count leaving :=
  recounts.induct
    (I := fun _ later => later.running = false ∧
      ∀ count leaving, later.Ends w count leaving → story.Ends w count leaving)
    ⟨asked, fun _ _ => id⟩
    (fun _ later v _ _ heads => ⟨(Story.running_step w later v.gate.ready v.frame).trans heads.1,
      fun _ _ ends => heads.2 _ _ (ends.of_step heads.1)⟩)
    (fun _ _ heads => ⟨rfl, fun _ _ ends => heads.2 _ _ ends.of_askToEnd⟩) amidst

theorem ends_of_gone {later : Story} (behind : s.Recounts w u later) (still : later.running = false)
    (ends : ∀ count leaving, later.Ends w count leaving → story.Ends w count leaving)
    (gone : later.stretch.isGone = true) :
    ∃ count leaving, story.Ends w count leaving ∧ s.Recounts w u ⟨count, false, .gone leaving⟩ := by
  obtain ⟨leaving, left, ended⟩ := Story.ends_of_isGone gone
  obtain ⟨count, running, stretch⟩ := later
  cases still
  cases left
  exact ⟨count, leaving, ends _ _ ended, behind⟩

theorem ends (recounts : s.Recounts w t story) (asked : story.running = false) {n : Nat}
    (enough : story.stepsLeft ≤ n) (amidst : t.Amidst w.threadName (fun _ => True) n u) :
    ∃ count leaving, story.Ends w count leaving ∧ s.Recounts w u ⟨count, false, .gone leaving⟩ := by
  obtain ⟨later, behind, still, ends⟩ := recounts.heads asked amidst
  have near := (amidst.nearing (recounts.nearing asked) _ behind.worker).2
  have none : story.stretch.place.stepsLeft - n = 0 := Nat.sub_eq_zero_of_le enough
  rw [none] at near
  have ended : (later.worker w).hasEnded = true := Place.ending?_isSome_iff.mpr (Nat.le_zero.mp near)
  rw [Story.hasEnded_worker] at ended
  exact behind.ends_of_gone still ends ended

end Recounts
end Session

/-- The engine's state apart, the gate is as it was. -/
structure Gate.Alike (g h : Gate E) : Prop where
  phase : h.phase = g.phase
  bound : h.bound = g.bound
  ready : h.ready = g.ready

namespace Session

/-- The worker is joined behind `t`, where its story ends so; nothing comes behind it. -/
structure Joins (w : Worker) (s t u : Session E H) (story : Story) (count : Nat) (leaving : Leaving) :
    Prop where
  ends : story.Ends w count leaving
  alike : t.gate.Alike u.gate
  quiet : ∀ n v, u.Amidst w.threadName (fun _ => True) n v →
    v.worker = none ∧
      Recorded (.worker w.threadName) s v (Story.calls ⟨count, false, .gone leaving⟩)
        (Story.lines w ⟨count, false, .gone leaving⟩)

theorem Recorded.join {name : String} (w : Worker) (ended : w.hasEnded = true) (s : Session E H) :
    Recorded (.worker name) s (s.join w ended) [] [] := by
  simp only [Session.join]
  split
  · next panic _ =>
      have died : Recorded (.worker name) s
          ({ s with worker := .none }.write (.line .host (w.diedLine panic))) [] [] := .aside rfl rfl rfl
      exact died.still (.aside rfl rfl rfl)
  · exact .aside rfl rfl rfl

theorem join_eq (w : Worker) (ended : w.hasEnded = true) (s : Session E H) :
    (s.join w ended).gate = s.gate ∧ (s.join w ended).worker = none := by
  simp only [Session.join]
  split
  · exact ⟨rfl, rfl⟩
  · exact ⟨rfl, rfl⟩

theorem Recounts.joins {w : Worker} {s t : Session E H} {story : Story} (recounts : s.Recounts w t story) :
    ∃ count leaving u,
      t.takeWorker = (some (Story.worker w ⟨count, false, .gone leaving⟩, leaving.ending), u) ∧
      s.Joins w t u story count leaving := by
  have asked : s.Recounts w t.stopWorker story.askToEnd := recounts.asked (.none rfl) rfl
  have halted : t.stopWorker.Amidst w.threadName (fun _ => True) (0 + stepsToEnd)
      (t.stopWorker.steps stepsToEnd) := Amidst.begun.steps fun _ _ => trivial
  obtain ⟨later, behind, still, heads⟩ := asked.heads rfl halted
  have ended := hasEnded_of_stopped behind.worker
  rw [Story.hasEnded_worker] at ended
  obtain ⟨count, leaving, ends, behind⟩ := behind.ends_of_gone still heads ended
  have taken := takeWorker_of_held behind.worker
  have reason : (Story.worker w ⟨count, false, .gone leaving⟩).ending (hasEnded_of_stopped behind.worker) =
      leaving.ending := Option.get_of_eq_some _ leaving.ending?_place
  rw [reason] at taken
  have still := unmoved_halt t
  have joined := join_eq (Story.worker w ⟨count, false, .gone leaving⟩) (hasEnded_of_stopped behind.worker)
    (t.stopWorker.steps stepsToEnd)
  refine ⟨count, leaving, _, taken, ends.of_askToEnd, ?_, ?_⟩
  · rw [joined.1]
    exact ⟨still.phase, still.bound, still.ready⟩
  · intro n v amidst
    obtain ⟨free, silent⟩ := amidst.silent joined.2
    exact ⟨free, (behind.recorded.still (.join _ _ _)).still silent⟩

theorem Amidst.after {name : String} {P : Session E H → Prop} {s t u : Session E H} {n : Nat}
    (others : s.Beside name t) (amidst : t.Amidst name P n u) : s.Amidst name P n u := by
  induction amidst with
  | begun => exact .beside .begun others
  | stepped _ here ih => exact .stepped ih here
  | beside _ others ih => exact .beside ih others

/-- What the host says of the join does not count. -/
theorem Joins.say {w : Worker} {s t u : Session E H} {story : Story} {count : Nat} {leaving : Leaving}
    (joins : s.Joins w t u story count leaving) (said : Log.Line) :
    s.Joins w t (u.write (.line .host said)) story count leaving where
  ends := joins.ends
  alike := joins.alike
  quiet n v amidst :=
    have others : u.Beside w.threadName (u.write (.line .host said)) := ⟨.aside rfl rfl rfl, .inl rfl⟩
    joins.quiet n v (amidst.after others)

end Session

namespace Controller

theorem endWorker_eq {k : Conditions} {c : Controller E H} {w : Worker} {ending : Ending}
    {u : Session E H}
    (taken : (c.session.steps (k.pace .stopping)).takeWorker = (some (w, ending), u)) :
    ∃ said, Control.endWorker k c =
      .ok () { c with session := u.write (.line .host said), lastEnding := some ending } := by
  have ran : Control.letRun k .stopping c =
      .ok () { c with session := c.session.steps (k.pace .stopping) } := rfl
  have joined : (Control.onSession Act.joinWorker : Control E H _)
      { c with session := c.session.steps (k.pace .stopping) } =
      .ok (c.session.steps (k.pace .stopping)).takeWorker.1
        { c with session := (c.session.steps (k.pace .stopping)).takeWorker.2 } := rfl
  rw [taken] at joined
  exact ⟨_, (bind_of_ok ran).trans (bind_of_ok joined)⟩

end Controller

end SurfaceGate
