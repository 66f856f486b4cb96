import SurfaceGate.Engine.Scripted
import SurfaceGate.Proofs.Outline.Calls
import SurfaceGate.Proofs.Outline.Records

/-!
What it takes to adopt a surface.

From any state in which no call was left by a panic, the adoption of a surface takes one of four courses.
The first of its steps that fails picks the course; whether an earlier cycle was up or an earlier adoption
failed has no part in it. Behind a failure nothing of a cycle is left, even if the engine fails to give the
surface up.
-/

namespace SurfaceGate

variable {E : Engine} {H : Type}

/-- The calls of the host with their outcomes, newest first. -/
def Journal.hostCalls (journal : Journal E H) : List (Call E.Surface × Outcome) :=
  (journal.calls.filter (·.thread = .host)).map fun record => (record.call, record.outcome)

theorem Journal.Owned.hostCalls_eq {journal : Journal E H} (owned : journal.Owned) :
    journal.hostCalls = journal.history.calls := by
  induction journal with
  | nil => rfl
  | cons entry rest ih =>
      cases entry with
      | call record =>
          obtain ⟨here, before⟩ := List.forall_mem_cons.mp owned
          obtain ⟨thread, call, deeds, outcome⟩ := record
          cases call with
          | render =>
              have foreign : thread ≠ .host := fun host => here.mp host rfl
              have skipped : hostCalls (.call ⟨thread, .render, deeds, outcome⟩ :: rest) =
                  hostCalls rest :=
                congrArg (List.map _) (List.filter_cons_of_neg (by simpa using foreign))
              exact skipped.trans (ih before)
          | prepare _ | attach _ | input _ | finish =>
              obtain rfl : thread = .host := here.mpr nofun
              exact congrArg (_ :: ·) (ih before)
      | line _ _ | readiness _ | moved _ _ | started _ | joined _ _ | host _ => exact ih owned

namespace Controller

variable {c d : Controller E H}

def hostCalls (c : Controller E H) : List (Call E.Surface × Outcome) :=
  c.session.journal.hostCalls

/-- A cycle is up. -/
structure ReadyWith (c : Controller E H) (size : Extent) (surface : E.Surface) : Prop where
  stage : c.stage = .ready
  ready : c.isOpen = true
  bound : c.session.gate.bound = true
  surface : c.surface = some surface
  size : c.size = some size
  worker : c.session.worker.map Worker.cycle = some c.cycles

/-- Nothing of a cycle is left. -/
structure Down (c : Controller E H) : Prop where
  stage : c.stage = .idle
  closed : c.isOpen = false
  bound : c.session.gate.bound = false
  surface : c.surface = none
  size : c.size = none
  worker : c.holdsWorker = false

/-- What the adoption of a surface changes from `c` to `d` when it takes a course. -/
structure Adopts (c : Controller E H) (startable : Bool) (size : Extent) (surface : E.Surface)
    (course : Course) (d : Controller E H) : Prop where
  calls : ∃ taken, d.hostCalls = course.calls size surface taken c.hostCalls
  cycles : d.cycles = c.cycles + course.cycles
  up : course = .up → startable = true ∧ d.ReadyWith size surface
  /-- The worker was started on the way. -/
  fresh : course = .up →
    .started d.cycles ∈ d.session.journal ∧ .started d.cycles ∉ c.session.journal
  down : course ≠ .up → d.Down
  unstarted : course = .unstarted → startable = false

/-- The adoption of a surface takes a course, or a panic leaves it: that of the engine's last call, or the
one of a worker whose thread cannot have its name. -/
def AdoptsOrPanics (c : Controller E H) (startable : Bool) (size : Extent) (surface : E.Surface) :
    EStateM.Result Panic (Controller E H) (Except GateError Unit) → Prop
  | .ok answer d => ∃ course : Course, answer = course.answer ∧ c.Adopts startable size surface course d
  | .error panic d =>
      (∃ call earlier, d.hostCalls = (call, .panicked panic) :: earlier ∧ c.hostCalls <:+ earlier) ∨
        d.settings.startPanic? d.cycles = some panic

theorem readyWith_of_live {size : Extent} {surface : E.Surface}
    {earlier : List (Call E.Surface × Outcome)} (live : c.outline.Live)
    (calls : c.outline.history.calls = (.attach (some surface), .ok) :: (.prepare size, .ok) :: earlier) :
    c.ReadyWith size surface := by
  obtain ⟨held, sized, hasSurface, hasSize, before, last⟩ := live.last
  rw [History.lifecycle_eq, calls] at last
  obtain ⟨given, prepared⟩ := List.cons.inj last
  obtain ⟨prepared, -⟩ := List.cons.inj prepared
  cases given
  cases prepared
  exact ⟨live.stage, live.ready, live.bound, hasSurface, hasSize, live.worker⟩

theorem down_of_idle (idle : c.outline.Idle) : c.Down := by
  have free : c.session.worker = none := Option.map_eq_none_iff.mp idle.free
  refine ⟨idle.stage, idle.closed, idle.unbound, idle.surface, idle.size, ?_⟩
  rw [holdsWorker, free]
  rfl

variable {startable : Bool} {size : Extent} {surface : E.Surface}

theorem Sound.adopts (sound : c.Sound) (gated : d.session.Gated) {course : Course}
    (took : c.outline.Took startable size surface course d.outline) :
    c.Adopts startable size surface course d := by
  obtain ⟨taken, calls⟩ := took.calls
  have cycles : d.cycles = c.cycles + course.cycles :=
    calc d.cycles
      _ = timesTaken d.outline.history.calls := took.sound.count.symm.trans (History.taken_eq _)
      _ = timesTaken c.outline.history.calls + course.cycles := by rw [calls, Course.timesTaken_calls]
      _ = c.cycles + course.cycles := by rw [← History.taken_eq, sound.outline.count]; rfl
  refine ⟨⟨taken, ?_⟩, cycles, fun up => ?_, fun up => ⟨?_, fun before => ?_⟩,
    fun other => down_of_idle (took.down other).1, took.unstarted⟩
  · exact gated.owned.hostCalls_eq.trans
      (calls.trans (congrArg (course.calls size surface taken) sound.gated.owned.hostCalls_eq.symm))
  · obtain ⟨started, live⟩ := took.up up
    subst up
    exact ⟨started, readyWith_of_live live calls⟩
  · have held : History.unjoined d.session.journal.history = [d.cycles] :=
      took.sound.unjoined_eq.trans (congrArg Option.toList (took.up up).2.worker)
    exact Journal.mem_started.mp (History.started_of_mem_unjoined (held ▸ List.mem_singleton.mpr rfl))
  · have earlier := sound.outline.started_le d.cycles (Journal.mem_started.mpr before)
    subst up
    rw [cycles] at earlier
    exact Nat.not_succ_le_self _ earlier

theorem Sound.adoptsOrPanics (sound : c.Sound) (settled : ¬c.outline.Stranded)
    (lasts : c.ended = false) (k : Conditions) (size : Extent) (surface : E.Surface)
    (assets : AssetReader) :
    c.AdoptsOrPanics k.startable size surface (adopt k size surface assets c) := by
  obtain ⟨plan, same, gated⟩ := sound.mirrored fun _ => Mirrors.adopt k size surface assets
  have ends := sound.outline.adopt lasts settled plan k.startable size surface
  rw [same] at ends
  cases h : adopt k size surface assets c with
  | ok answer d =>
      rw [h] at ends gated
      obtain ⟨course, answered, took⟩ := ends
      exact ⟨course, answered, sound.adopts gated took⟩
  | error panic d =>
      rw [h] at ends gated
      have torn : c.outline.Torn panic d.outline := ends
      have same : c.hostCalls = c.outline.history.calls := sound.gated.owned.hostCalls_eq
      refine torn.cause.imp_left fun ⟨call, earlier, calls, before⟩ => ⟨call, earlier, ?_, ?_⟩
      · exact gated.owned.hostCalls_eq.trans calls
      · exact same ▸ before

theorem adopt_of_ended (ended : c.ended = true) (k : Conditions) (size : Extent)
    (surface : E.Surface) (assets : AssetReader) :
    adopt k size surface assets c =
      .ok (.error (.ordering .adoptAfterEnd))
        { c with session := c.session.write (.line .host
          ⟨.error, s!"ordering violation in state {c.stage.shown}: {Violation.adoptAfterEnd.message}"⟩) } := by
  refine (get_bind _ c).trans ?_
  rw [if_pos ended]
  rfl

/-- Behind a run in which each call returns, a surface is refused once the activity ended, and nothing
but a line in the log comes of it. Before that its adoption takes a course. -/
theorem run_adopts (engine : E.State) (settings : RenderSettings) (turns : List (Turn E.Surface H))
    (returned : ∀ r ∈ (new engine settings : Controller E H).transcript turns, Returns r)
    (k : Conditions) (size : Extent) (surface : E.Surface) (assets : AssetReader) :
    let c := (new engine settings : Controller E H).run turns
    (c.ended = true → adopt k size surface assets c =
      .ok (.error (.ordering .adoptAfterEnd))
        { c with session := c.session.write (.line .host
          ⟨.error, s!"ordering violation in state {c.stage.shown}: {Violation.adoptAfterEnd.message}"⟩) }) ∧
    (c.ended = false →
      c.AdoptsOrPanics k.startable size surface (adopt k size surface assets c)) := by
  intro c
  have start := sound_new (H := H) engine settings
  have settled := settled_new (H := H) engine settings
  refine ⟨fun ended => adopt_of_ended ended k size surface assets, fun lasts => ?_⟩
  exact (start.run turns).adoptsOrPanics (start.settled_run settled turns returned) lasts k size surface
    assets

/-- A cycle is up when another surface comes. No thread can be started for it, and the engine fails to
give it up. -/
theorem run_adopts_unstarted :
    let c := (new ⟨none, [], [], [.failed (.of "lost")], [], .ok, none⟩ .default :
      Controller Script.engine Unit).run
        [.called .calm (.sized ⟨800, 600⟩ (1 : Nat) (.ofRead fun path => .error (.of path))), .worked 4]
    c.ended = false ∧ c.stage = .ready ∧
      c.AdoptsOrPanics false ⟨640, 480⟩ (2 : Nat)
        (adopt { Conditions.calm with startable := false } ⟨640, 480⟩ (2 : Nat)
          (.ofRead fun path => .error (.of path)) c) := by
  intro c
  have lasts : c.ended = false := by decide +kernel
  exact ⟨lasts, by decide +kernel, (run_adopts _ _ _ (by decide +kernel) _ _ _ _).2 lasts⟩

end Controller
end SurfaceGate
