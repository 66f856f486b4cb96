import SurfaceGate.Proofs.Worker.Rendering

/-!
A worker that nobody disturbs.

The others may write what they like and hand on input, but they leave the gate open and do not ask the worker to
end. Then the number of steps that the worker has taken tells how many frames it has come to draw, as long as none
of them broke; and all that the engine asked of the systems outside was asked by its calls since then.
-/

namespace SurfaceGate

variable {E : Engine} {H : Type}

/-- What a deed asks of the systems outside. -/
def Deed.effect? {ε : Type} : Deed ε → Option ε
  | .acted effect => some effect
  | .logged _ => none

def CallRecord.effects (record : CallRecord E) : List E.Effect :=
  record.deeds.filterMap Deed.effect?

def Entry.effects : Entry E H → List E.Effect
  | .call record => record.effects
  | _ => []

/-- Oldest first, the calls of all threads together. -/
def Journal.effects (journal : Journal E H) : List E.Effect :=
  journal.reverse.flatMap Entry.effects

theorem Journal.effects_append (newer older : Journal E H) :
    effects (newer ++ older) = effects older ++ effects newer := by
  simp only [effects, List.reverse_append, List.flatMap_append]

theorem Entry.effects_of_uncalled {entry : Entry E H} (uncalled : entry.call? = none) : entry.effects = [] := by
  cases entry with
  | call record => cases uncalled
  | line _ _ | readiness _ | moved _ _ | started _ | joined _ _ | host _ => rfl

namespace Session

/-- What the engine asked of the systems outside from `s` to `t`. -/
def Acted (s t : Session E H) (effects : List E.Effect) : Prop :=
  ∃ since : Journal E H, t.journal = since ++ s.journal ∧ since.effects = effects

namespace Acted

variable {s t u : Session E H} {effects more : List E.Effect}

theorem none (same : t.journal = s.journal) : Acted s t [] :=
  ⟨[], same, rfl⟩

theorem entry {entry : Entry E H} (written : t.journal = entry :: s.journal) : Acted s t entry.effects := by
  refine ⟨[entry], written, ?_⟩
  simp only [Journal.effects, List.reverse_singleton, List.flatMap_singleton]

theorem call (thread : Thread) (call : Call E.Surface) (outcome : Outcome) (p : Performance E.State E.Effect) :
    Acted s (s.close thread call outcome p) (p.deeds.filterMap Deed.effect?) := by
  have written : (s.close thread call outcome p).journal = .call ⟨thread, call, p.deeds, outcome⟩ :: s.journal :=
    rfl
  exact entry written

theorem silent {entry : Entry E H} (written : t.journal = entry :: s.journal) (uncalled : entry.call? = .none) :
    Acted s t [] := by
  have acted := Acted.entry written
  rwa [Entry.effects_of_uncalled uncalled] at acted

theorem trans (first : Acted s t effects) (next : Acted t u more) : Acted s u (effects ++ more) := by
  obtain ⟨since, grown, rfl⟩ := first
  obtain ⟨later, further, rfl⟩ := next
  refine ⟨later ++ since, ?_, Journal.effects_append later since⟩
  rw [further, grown, List.append_assoc]

theorem still (first : Acted s t effects) (next : Acted t u []) : Acted s u effects := by
  have both := first.trans next
  rwa [List.append_nil] at both

theorem unique (one : Acted s t effects) (other : Acted s t more) : effects = more := by
  obtain ⟨since, grown, rfl⟩ := one
  obtain ⟨later, further, rfl⟩ := other
  rw [List.append_cancel_right (grown.symm.trans further)]

end Acted

/-- What others do beside a thread that they do not disturb. -/
inductive Attends (name : String) (s : Session E H) : Session E H → Prop where
  | wrote {entry : Entry E H} (uncalled : entry.call? = none)
      (unsaid : entry.lineBy? (.worker name) = none) : Attends name s (s.write entry)
  | fed {thread : Thread} (other : thread ≠ .worker name) (event : Input.Event) :
      Attends name s (stateOf (Gate.feed thread event s))

/-- The worker takes a number of steps from `s`, and nobody disturbs it in between. -/
inductive Undisturbed (name : String) (s : Session E H) : Nat → Session E H → Prop where
  | begun : Undisturbed name s 0 s
  | stepped {n : Nat} {t : Session E H} (before : Undisturbed name s n t) : Undisturbed name s (n + 1) t.step
  | attended {n : Nat} {t u : Session E H} (before : Undisturbed name s n t) (others : t.Attends name u) :
      Undisturbed name s n u

theorem Undisturbed.steps {name : String} {s t : Session E H} {n : Nat} (undisturbed : s.Undisturbed name n t)
    (m : Nat) : s.Undisturbed name (n + m) (t.steps m) := by
  induction m generalizing n t with
  | zero => exact undisturbed
  | succ m ih =>
      have later := ih undisturbed.stepped
      rwa [Nat.succ_add_eq_add_succ] at later

namespace Attends

variable {name : String} {s t u : Session E H}

theorem beside (attends : s.Attends name t) : s.Beside name t := by
  cases attends with
  | @wrote entry uncalled unsaid =>
      have silent : entry.callBy? (.worker name) = none := by
        cases entry with
        | call record => cases uncalled
        | line _ _ | readiness _ | moved _ _ | started _ | joined _ _ | host _ => rfl
      exact ⟨.aside rfl silent unsaid, .inl rfl⟩
  | fed other event => exact .feed other event s

theorem worker (attends : s.Attends name t) : t.worker = s.worker := by
  cases attends with
  | wrote => rfl
  | fed other event =>
      simp only [Gate.feed]
      rw [Act.look]
      split <;> rfl

theorem ready (attends : s.Attends name t) : t.gate.ready = s.gate.ready := by
  cases attends with
  | wrote => rfl
  | fed other event =>
      simp only [Gate.feed]
      rw [Act.look]
      split <;> rfl

/-- The engine hears of an event, or of nothing. -/
theorem engine (attends : s.Attends name t) :
    t.gate.engine = s.gate.engine ∧ Acted s t [] ∨
      ∃ event, t.gate.engine = (E.input event s.gate.engine).1 ∧
        Acted s t ((E.input event s.gate.engine).2.filterMap Deed.effect?) := by
  cases attends with
  | wrote uncalled _ => exact .inl ⟨rfl, .silent rfl uncalled⟩
  | fed other event =>
      simp only [Gate.feed]
      rw [Act.look]
      split
      · exact .inr ⟨event, rfl, .call _ (.input event) .ok ⟨_, _⟩⟩
      · exact .inl ⟨rfl, .none rfl⟩

end Attends

/-- What others write and hand on does not change the story of a worker. -/
theorem Recounts.attended {w : Worker} {s t u : Session E H} {story : Story} (recounts : s.Recounts w t story)
    (others : t.Attends w.threadName u) : s.Recounts w u story :=
  recounts.extend (others.worker.trans recounts.worker) others.beside.journal (List.append_nil _).symm
    (List.append_nil _).symm

section Steps

variable (w : Worker) (s : Session E H)

theorem gate_counted : (s.counted w).gate = s.gate := by
  rw [counted_eq]
  split <;> rfl

theorem acted_counted : Acted s (s.counted w) [] := by
  rw [counted_eq]
  split
  · exact .silent rfl rfl
  · exact .none rfl

theorem acted_leave (ending : Ending) : Acted s (s.leave w ending) [] :=
  .silent rfl rfl

end Steps
end Session

namespace Story

variable {story : Story} {n : Nat}

/-- The frames that were drawn, and the one that broke. -/
def attempts (story : Story) : Nat :=
  story.count + if story.stretch.isGone then 1 else 0

/-- The worker is so far after `n` steps at an open gate, if no rest overruns the clock. -/
def Paced (n : Nat) (story : Story) : Prop :=
  match story.stretch with
  | .checking => n = 3 * story.count
  | .rendering => n = 3 * story.count + 1
  | .resting => n + 1 = 3 * story.count
  | .gone _ => 3 * story.count + 2 ≤ n

theorem Paced.step {w : Worker} (timed : w.overruns story.count = false) (paced : story.Paced n)
    (running : story.running = true) (frame : Outcome) : (story.step w true frame).Paced (n + 1) := by
  obtain ⟨count, running, stretch⟩ := story
  cases running
  cases stretch with
  | checking => exact congrArg Nat.succ paced
  | rendering =>
      change n = 3 * count + 1 at paced
      subst paced
      cases frame with
      | ok => exact Eq.symm (Nat.mul_succ 3 count)
      | failed _ | panicked _ => exact Nat.le_refl _
  | resting =>
      rw [Story.step, timed]
      exact paced
  | gone leaving => exact Nat.le_succ_of_le paced

theorem Paced.count_eq (paced : story.Paced n) (inside : story.Inside) : story.count = (n + 1) / 3 := by
  obtain ⟨count, running, stretch⟩ := story
  cases stretch with
  | checking | rendering | resting =>
      change _ = _ at paced
      dsimp only at paced ⊢
      omega
  | gone leaving => cases inside

end Story
end SurfaceGate
