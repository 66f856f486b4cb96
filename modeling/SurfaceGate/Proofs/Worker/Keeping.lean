import SurfaceGate.Proofs.Steps

/-!
What the steps of a worker keep.

A worker moves in its loop, writes lines and draws frames through an open gate. A property that these three
changes keep is kept by any number of its steps. If the entries that the host makes of a worker keep it as well,
so do the start of a worker and its join.
-/

namespace SurfaceGate

/-- How the engine's next frame may come out, and what it leaves. -/
inductive Engine.Draws (E : Engine) (e : E.State) : Outcome → Performance E.State E.Effect → Prop where
  | done {p : Performance E.State E.Effect} (answer : E.render ⟨e, []⟩ = .ok () p) : Draws E e .ok p
  | broke {stop : Stop} {p : Performance E.State E.Effect} (answer : E.render ⟨e, []⟩ = .error stop p) :
      Draws E e stop.outcome p

variable {E : Engine} {H : Type}

namespace Session

theorem render_closed (thread : Thread) {s : Session E H} (closed : s.gate.ready = false) :
    Gate.render thread s = .ok (.ok .withheld) s := by
  have looked : (Act.gate : Act E H _) s = .ok s.gate s := rfl
  refine (bind_of_ok looked).trans ?_
  rw [if_neg (by simp [closed])]
  rfl

theorem render_open (thread : Thread) {s : Session E H} (ready : s.gate.ready = true) :
    Gate.render thread s =
      match E.render ⟨s.gate.engine, []⟩ with
      | .ok () p => .ok (.ok .drawn) (s.close thread .render .ok p)
      | .error (.failed why) p =>
          .ok (.error (.render why)) (s.close thread .render (.failed why) p)
      | .error (.panicked panic) p =>
          .error panic (s.close thread .render (.panicked panic) p) := by
  have looked : (Act.gate : Act E H _) s = .ok s.gate s := rfl
  refine (bind_of_ok looked).trans ?_
  rw [if_pos ready]
  simp only [Act.perform, bind, EStateM.bind]
  rcases E.render ⟨s.gate.engine, []⟩ with ⟨_, p⟩ | ⟨why | panic, p⟩ <;> rfl

/-- Whatever a worker does by itself keeps the property. -/
structure Keeps (I : Session E H → Prop) : Prop where
  moves : ∀ {s : Session E H} {w v : Worker}, s.worker = some w → v.cycle = w.cycle → I s → I (s.setWorker v)
  speaks : ∀ {s : Session E H} (name : String) (line : Log.Line), I s → I (s.write (.line (.worker name) line))
  draws : ∀ {s : Session E H} {w : Worker} {outcome : Outcome} {p : Performance E.State E.Effect},
    s.worker = some w → s.gate.ready = true → E.Draws s.gate.engine outcome p → I s →
    I (s.close (.worker w.threadName) .render outcome p)

namespace Keeps

variable {I : Session E H → Prop} (keeps : Keeps I) {s : Session E H} {w : Worker}
include keeps

theorem leave (held : s.worker = some w) (ending : Ending) (holds : I s) : I (s.leave w ending) :=
  have told : (s.logFrom w (w.stoppedLine ending)).worker = some w := held
  keeps.moves told rfl (keeps.speaks _ _ holds)

theorem broken (held : s.worker = some w) (said : Log.Line) (ending : Ending) (holds : I s) :
    I ((s.logFrom w said).leave w ending) :=
  have told : (s.logFrom w said).worker = some w := held
  keeps.leave told ending (keeps.speaks _ _ holds)

theorem counted (held : s.worker = some w) (holds : I s) : I (s.counted w) := by
  simp only [Session.counted]
  split
  · exact keeps.moves (w := w) held rfl (keeps.speaks _ _ holds)
  · exact keeps.moves held rfl holds

theorem attempt (held : s.worker = some w) (holds : I s) : I (s.attempt w) := by
  simp only [Session.attempt]
  cases ready : s.gate.ready with
  | false =>
      rw [render_closed _ ready]
      exact keeps.leave held _ holds
  | true =>
      rw [render_open _ ready]
      rcases answer : E.render ⟨s.gate.engine, []⟩ with ⟨_, p⟩ | ⟨why | panic, p⟩
      · have drawn := keeps.draws held ready (.done answer) holds
        exact keeps.counted (s := s.close (.worker w.threadName) .render .ok p) held drawn
      · have drawn := keeps.draws held ready (.broke answer) holds
        exact keeps.broken (s := s.close (.worker w.threadName) .render (.failed why) p) held _ _ drawn
      · have drawn := keeps.draws held ready (.broke answer) holds
        exact keeps.broken (s := s.close (.worker w.threadName) .render (.panicked panic) p) held _ _ drawn

theorem step (holds : I s) : I s.step := by
  simp only [Session.step]
  cases held : s.worker with
  | none => exact holds
  | some w =>
      simp only [stepOf]
      split
      · split
        · exact keeps.moves held rfl holds
        · exact keeps.leave held _ holds
      · exact keeps.attempt held holds
      · split
        · exact keeps.moves held rfl holds
        · exact keeps.moves held rfl holds
        · exact keeps.moves held rfl holds
      · exact holds
      · exact holds

theorem steps (n : Nat) (holds : I s) : I (s.steps n) := by
  induction n generalizing s with
  | zero => exact holds
  | succ n ih => exact ih (keeps.step holds)

end Keeps

/-- The property does not depend on the worker, and bears what is noted of it. -/
structure Outlasts (I : Session E H → Prop) : Prop where
  worker : ∀ {s : Session E H} (worker : Option Worker), I s → I { s with worker }
  draws : ∀ {s : Session E H} (name : String) {outcome : Outcome} {p : Performance E.State E.Effect},
    s.gate.ready = true → E.Draws s.gate.engine outcome p → I s → I (s.close (.worker name) .render outcome p)
  speaks : ∀ {s : Session E H} (name : String) (line : Log.Line), I s → I (s.write (.line (.worker name) line))
  started : ∀ {s : Session E H} (cycle : Nat), I s → I (s.write (.started cycle))
  joined : ∀ {s : Session E H} (cycle : Nat) (ending : Ending), I s → I (s.write (.joined cycle ending))
  died : ∀ {s : Session E H} (w : Worker) (panic : Panic), I s → I (s.write (.line .host (w.diedLine panic)))

namespace Outlasts

variable {I : Session E H → Prop} (outlasts : Outlasts I) {s : Session E H}
include outlasts

theorem keeps : Keeps I where
  moves _ _ := outlasts.worker _
  speaks := outlasts.speaks
  draws _ := outlasts.draws _

theorem join (w : Worker) (ended : w.hasEnded = true) (holds : I s) : I (s.join w ended) := by
  simp only [Session.join]
  refine outlasts.joined _ _ ?_
  split
  · exact outlasts.died _ _ (outlasts.worker none holds)
  · exact outlasts.worker none holds

theorem takeWorker (holds : I s) : I s.takeWorker.2 := by
  have halted := outlasts.keeps.steps stepsToEnd (outlasts.worker (s.worker.map Worker.askToEnd) holds)
  simp only [Session.takeWorker]
  split
  · exact halted
  · exact outlasts.join _ _ halted

theorem joinWorker : Preserves I (Act.joinWorker : Act E H _) :=
  fun _ => outlasts.takeWorker

theorem dropWorker : Preserves I (Act.dropWorker : Act E H Unit) :=
  .bind outlasts.joinWorker fun _ => .pure _

theorem startWorker (settings : RenderSettings) (cycle : Nat) (clock : Nat → Nat) (startable : Bool)
    (ahead : Nat) : Preserves I (Act.startWorker settings cycle clock startable ahead : Act E H _) := by
  simp only [Act.startWorker]
  cases firstNull? (settings.threadName cycle).toUTF8.toList with
  | some index => exact .throw _
  | none =>
      refine .branch ?_ (.pure _)
      refine .bind (.change fun _ => outlasts.started cycle) fun _ => ?_
      refine .bind (.change fun _ => outlasts.speaks _ _) fun _ => .bind outlasts.dropWorker fun _ => ?_
      refine .bind (.change fun _ => outlasts.worker _) fun _ => ?_
      exact .bind (.change fun _ => outlasts.keeps.steps ahead) fun _ => .pure _

end Outlasts
end Session
end SurfaceGate
