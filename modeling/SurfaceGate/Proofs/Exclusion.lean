import SurfaceGate.Proofs.Release

/-!
One worker at a time.

A worker is started only when the one before it is joined, and the engine is prepared, given a surface
and finished only behind a closed gate when no worker is left. The law of histories says both of every
moment of a run, amid a call and behind a panic as well. A call that takes the surface away, or returns
without having brought one up, leaves no worker; whoever draws later was started by a later surface, in
a cycle of its own.
-/

namespace SurfaceGate

/-- The calls, with their answers, that leave no cycle up: the surface goes, the activity ends, the
controller is given up, or a surface is not adopted. -/
def HostCall.retires {S H : Type} : HostCall S H → Answer → Prop
  | .vanished, _ | .ended, _ | .discarded, _ | .reported .vanished, _ | .reported .ended, _ => True
  | .sized .., answer | .reported (.sized ..), answer => answer ≠ .result (.ok ())
  | _, _ => False

theorem History.unjoined_le {S : Type} {h : History S} (lawful : Lawful h) :
    (unjoined h).length ≤ 1 := by
  induction h with
  | nil => exact Nat.zero_le 1
  | cons mark older ih =>
      obtain ⟨permitted, lawful⟩ := lawful
      cases mark with
      | started cycle =>
          rw [unjoined, permitted.2.1]
          exact Nat.le_refl 1
      | joined cycle =>
          rw [unjoined]
          exact Nat.le_trans List.length_erase_le (ih lawful)
      | call _ _ | readiness _ | moved _ _ => exact ih lawful

theorem History.quiet_of_permits {S : Type} {h : History S} {call : Call S} {outcome : Outcome}
    (permitted : Permits h (.call call outcome)) (begins : call.isLifecycle = true) : Quiet h := by
  cases call with
  | prepare _ | attach _ | finish => exact permitted.1
  | render | input _ => cases begins

theorem Outline.down_of_retires {S H : Type} {o p : Outline S} (sound : Sound o) {plan : Plan}
    {startable : Bool} {call : HostCall S H} {answer : Answer}
    (returned : call.draft plan startable o = .ok answer p) (retires : call.retires answer) :
    ¬Live p := by
  have adopted (size : Extent) (surface : S) :
      Ends o (fun answer p => Answer.result answer ≠ .result (.ok ()) → ¬Live p)
        (Draft.adopt plan startable size surface o) :=
    (adopt_ends sound plan startable size surface).imp fun _ _ after other live =>
      other (congrArg Answer.result (after.2 live))
  have ends : Ends o (fun answer p => call.retires answer → ¬Live p)
      (call.draft plan startable o) := by
    cases call with
    | vanished => exact .bind (release_ends sound plan) fun _ _ after _ => after.2
    | ended => exact .bind (closeActivity_ends sound plan) fun _ _ after _ => after.2
    | discarded => exact .bind (discard_ends sound plan) fun _ _ after _ => after.2
    | sized size surface assets => exact .bind (adopted size surface) fun _ _ after => after
    | reported report =>
        cases report with
        | vanished =>
            have gone : Ends o (fun _ p => ¬Live p) (Draft.report plan startable .vanished o) :=
              .bind (release_ends sound plan) fun _ _ after => after.2
            exact .bind gone fun _ _ down _ => down
        | ended => exact .bind (closeActivity_ends sound plan) fun _ _ after _ => after.2
        | sized size surface assets => exact .bind (adopted size surface) fun _ _ after => after
        | appeared | motion _ | key _ => exact retires.elim
    | opened _ | focused _ _ | appeared | motion _ | key _ => exact retires.elim
  rw [returned] at ends
  exact ends retires

namespace Controller

variable {E : Engine} {H : Type} {c d : Controller E H}

/-- A turn starts the worker of a cycle. -/
def Starts (c : Controller E H) (turn : Turn E.Surface H) (cycle : Nat) : Prop :=
  ∃ since, (c.turned turn).session.journal = since ++ c.session.journal ∧ .started cycle ∈ since

/-- No worker is left in `c`. Any that draws in a run behind it was started behind it, and its cycle is
later than all before. -/
structure Retired (c : Controller E H) (later : List (Turn E.Surface H)) : Prop where
  free : c.holdsWorker = false
  joined : History.unjoined c.session.journal.history = []
  undrawn : ∀ frame since,
    .call frame :: (since ++ c.session.journal) <:+ (c.run later).session.journal →
      frame.call = .render → ∃ cycle, .started cycle ∈ since ∧
        ∀ earlier, .started earlier ∈ c.session.journal → earlier < cycle

/-- At any moment of a run at most one worker is not joined, and the engine's lifecycle calls are made
when there is none, behind a closed gate. Behind the run, the worker that is held and the gate are as the
journal tells. -/
structure Exclusive (c : Controller E H) (turns : List (Turn E.Surface H)) : Prop where
  single : ∀ journal, journal <:+ (c.run turns).session.journal →
    (History.unjoined (Journal.history journal)).length ≤ 1
  held : History.unjoined (c.run turns).session.journal.history =
    ((c.run turns).session.worker.map Worker.cycle).toList
  opened : History.isOpen (c.run turns).session.journal.history = (c.run turns).isOpen
  quiet : ∀ record older, .call record :: older <:+ (c.run turns).session.journal →
    record.call.isLifecycle = true → History.Quiet (Journal.history older)
  ascending : ∀ cycle older, .started cycle :: older <:+ (c.run turns).session.journal →
    ∀ earlier, .started earlier ∈ older → earlier < cycle
  brought : ∀ before turn later, turns = before ++ turn :: later →
    ∀ cycle, (c.run before).Starts turn cycle → (c.run before).Brings turn
  retired : ∀ before k call later answer d, turns = before ++ .called k call :: later →
    call.perform k (c.run before) = .ok answer d → call.retires answer → d.Retired later

/-- Only a call that brings a surface up starts a worker. -/
theorem Sound.brings_of_starts (sound : c.Sound) {turn : Turn E.Surface H} {cycle : Nat}
    (starts : c.Starts turn cycle) : c.Brings turn := by
  obtain ⟨since, grown, started⟩ := starts
  have marked := Journal.mem_started.mpr started
  rcases sound.turned_cases turn with ⟨marks, history, plain⟩ | ⟨k, call, rfl, ready, offered⟩ | brings
  · rw [Journal.history_of_append grown.symm history] at marked
    cases plain _ marked
  · rw [sound.history_offered k call ready offered grown.symm, List.mem_reverse] at marked
    obtain ⟨event, -, input⟩ := List.mem_map.mp marked
    cases input
  · exact brings

/-- The cycles of the workers go up. -/
theorem Sound.ascending (sound : c.Sound) {cycle : Nat} {older : Journal E H}
    (started : .started cycle :: older <:+ c.session.journal) :
    ∀ earlier, .started earlier ∈ older → earlier < cycle := by
  intro earlier before
  have permitted := (History.lawful_of_suffix (Journal.suffix_history started) sound.outline.lawful).1
  exact permitted.2.2 earlier (Journal.mem_started.mpr before)

theorem Sound.retired (sound : c.Sound) (down : ¬c.outline.Live) (later : List (Turn E.Surface H)) :
    c.Retired later where
  free := by
    have free : c.session.worker.map Worker.cycle = none := sound.outline.free_of_down down
    rw [holdsWorker, Option.map_eq_none_iff.mp free]
    rfl
  joined := sound.joined down
  undrawn frame since made drawn := by
    have gated := (Journal.gated_of_suffix made (sound.run later).gated.frames).1 drawn
    -- A frame needs a worker that is not joined, so one was started before it.
    obtain ⟨cycle, started⟩ := Journal.started_of_unjoined (sound.joined down) gated.2
    obtain ⟨newer, older, rfl⟩ := List.append_of_mem started
    have suffix : .started cycle :: (older ++ c.session.journal) <:+
        (c.run later).session.journal :=
      List.IsSuffix.trans ⟨.call frame :: newer, by simp⟩ made
    refine ⟨cycle, started, fun earlier before => ?_⟩
    exact (sound.run later).ascending suffix earlier (List.mem_append_right older before)

/-- Under any conditions at most one worker is left at a time, the engine's life is run while there is
none, and a call that retires a cycle leaves none behind. -/
theorem run_exclusive (engine : E.State) (settings : RenderSettings)
    (turns : List (Turn E.Surface H)) : (new engine settings : Controller E H).Exclusive turns where
  single journal suffix := by
    have sound := (sound_new (H := H) engine settings).run turns
    exact History.unjoined_le
      (History.lawful_of_suffix (Journal.suffix_history suffix) sound.outline.lawful)
  held := ((sound_new engine settings).run turns).outline.unjoined_eq
  opened := ((sound_new engine settings).run turns).outline.ready_eq.symm
  quiet record older suffix begins := by
    have sound := (sound_new (H := H) engine settings).run turns
    have lawful := History.lawful_of_suffix (Journal.suffix_history suffix) sound.outline.lawful
    obtain ⟨thread, call, deeds, outcome⟩ := record
    cases call with
    | prepare _ | attach _ | finish => exact History.quiet_of_permits lawful.1 begins
    | render | input _ => cases begins
  ascending cycle older suffix := ((sound_new engine settings).run turns).ascending suffix
  brought before turn later _ cycle starts :=
    ((sound_new engine settings).run before).brings_of_starts starts
  retired before k call later answer d _ returned retires := by
    have sound := (sound_new (H := H) engine settings).run before
    obtain ⟨plan, same, -⟩ := sound.mirrored_call k call
    rw [returned] at same
    have left := (sound.called k call).2
    rw [returned] at left
    exact left.retired (Outline.down_of_retires sound.outline same retires) later

end Controller
end SurfaceGate
