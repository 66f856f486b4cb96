import SurfaceGate.Proofs.Outline.Walk

/-!
What the calls of the host do to the pointers and to the events.

A bind cycle has no part in either, so its begin leaves both as they are, whether it succeeds, fails or
panics. Its end forgets the pointers. A batch moves the pointers and a key does not; their events go to
the engine one after the other, or all of them are dropped.
-/

namespace SurfaceGate

/-- The pointers that are down, the events that reached the engine, oldest first, and how many did not. -/
structure Intake where
  pointers : Input.Pointers
  passed : List Input.Event
  dropped : Nat
  deriving DecidableEq

def Intake.none : Intake :=
  ⟨.empty, [], 0⟩

/-- The pointers behind a call that leaves the surface where it is. -/
def HostCall.pointers {S H : Type} (before : Input.Pointers) : HostCall S H → Input.Pointers
  | .motion batch | .reported (.motion batch) => (before.absorb batch).pointers
  | _ => before

/-- The calls that end the activity. -/
def HostCall.closes {S H : Type} : HostCall S H → Bool
  | .ended | .reported .ended => true
  | _ => false

theorem HostCall.events_of_dismantles {S H : Type} {call : HostCall S H} {pointers : Input.Pointers}
    (dismantles : call.dismantles = true) : call.events pointers = [] := by
  cases call with
  | vanished | ended | discarded => rfl
  | reported report =>
      cases report with
      | vanished | ended => rfl
      | appeared | sized _ _ _ | motion _ | key _ => cases dismantles
  | opened _ | focused _ _ | appeared | sized _ _ _ | motion _ | key _ => cases dismantles

/-- A call comes while the surface is ready, or while it is not. -/
def Intake.heard {S H : Type} (i : Intake) (ready : Bool) (call : HostCall S H) : Intake where
  pointers := if ready && call.dismantles then .empty else call.pointers i.pointers
  passed := if ready then i.passed ++ call.events i.pointers else i.passed
  dropped := if ready then i.dropped else i.dropped + (call.events i.pointers).length

variable {S H α β : Type}

def Mark.input? : Mark S → Option Input.Event
  | .call (.input event) _ => some event
  | _ => none

/-- The events that reached the engine, oldest first. -/
def History.inputs (h : History S) : List Input.Event :=
  (h.filterMap Mark.input?).reverse

namespace Outline

def intake (o : Outline S) : Intake :=
  ⟨o.pointers, o.history.inputs, o.dropped⟩

/-- What a bind cycle has no part in. -/
structure Aside where
  intake : Intake
  ended : Bool

def aside (o : Outline S) : Aside :=
  ⟨o.intake, o.ended⟩

theorem inputs_retired (o : Outline S) : o.retired.history.inputs = o.history.inputs := by
  simp only [Outline.retired]
  split
  · rfl
  · rfl

theorem aside_retired (o : Outline S) : o.retired.aside = o.aside := by
  rw [aside, intake, inputs_retired, retired_eq]
  rfl

theorem aside_mark (o : Outline S) {call : Call S} (begins : call.isLifecycle = true)
    (outcome : Outcome) : (o.mark (.call call outcome)).aside = o.aside := by
  cases call with
  | prepare _ | attach _ | finish => rfl
  | render | input _ => cases begins

end Outline

/-- What a cycle has no part in stays while one comes up or is left. -/
theorem Outline.begins_aside : Draft.Begins fun o p : Outline S => p.aside = o.aside where
  asked o _ outcome lifecycle := aside_mark o lifecycle outcome
  noted _ _ _ := rfl
  entered _ _ := rfl
  closed _ := rfl
  retired := aside_retired
  held _ _ _ := rfl
  opened _ := rfl
  counted _ := rfl
  started _ _ := rfl
  manned _ _ := rfl

namespace Outline

variable {o p : Outline S} {plan : Plan}

/-- A call as it shows aside of the cycles, when it returns. -/
def Aside.heard (a : Aside) (ready : Bool) (call : HostCall S H) : Aside where
  intake := a.intake.heard ready call
  ended := a.ended || call.closes

theorem aside_returned {x : Draft S α} (along : Along (fun o p => p.aside = o.aside) x) {a : α}
    (returned : x o = .ok a p) : p.aside = o.aside := by
  have same := along o
  rwa [returned] at same

/-- Whether an outline is idle or live shows at its gate. -/
theorem Sound.ready_eq_stage (sound : Sound o) (settled : ¬Stranded o) :
    o.ready = decide (o.stage = .ready) := by
  rcases sound.stands with idle | live | stranded
  · rw [idle.closed, idle.stage]
    rfl
  · rw [live.ready, live.stage]
    rfl
  · exact absurd stranded settled

theorem intake_told (events : List Input.Event) (o : Outline S) :
    (events.foldl told o).intake =
      { pointers := o.pointers
        passed := if o.ready then o.history.inputs ++ events else o.history.inputs
        dropped := if o.ready then o.dropped else o.dropped + events.length } := by
  induction events generalizing o with
  | nil => simp [intake]
  | cons event rest ih =>
      rw [List.foldl_cons, ih, told_ready]
      cases ready : o.ready with
      | true =>
          have told : o.told event = o.mark (.call (.input event) .ok) := if_pos ready
          simp [told, mark, History.inputs, Mark.input?]
      | false =>
          have told : o.told event = { o with dropped := o.dropped + 1 } := if_neg (by simp [ready])
          simp [told, Nat.add_left_comm, Nat.add_comm]

theorem ended_told (events : List Input.Event) (o : Outline S) :
    (events.foldl told o).ended = o.ended := by
  induction events generalizing o with
  | nil => rfl
  | cons event rest ih =>
      rw [List.foldl_cons, ih, told]
      split
      · rfl
      · rfl

theorem ready_told (events : List Input.Event) (o : Outline S) :
    (events.foldl told o).ready = o.ready := by
  induction events generalizing o with
  | nil => rfl
  | cons event rest ih => rw [List.foldl_cons, ih, told_ready]

theorem aside_told (events : List Input.Event) (o : Outline S) :
    (events.foldl told o).aside =
      { intake :=
          { pointers := o.pointers
            passed := if o.ready then o.history.inputs ++ events else o.history.inputs
            dropped := if o.ready then o.dropped else o.dropped + events.length }
        ended := o.ended } := by
  rw [aside, intake_told, ended_told]

section Calls

variable {startable : Bool} {answer : Answer}

/-- The end of a cycle forgets the pointers, and nothing else. -/
theorem aside_dismantle {a : Unit} (returned : Draft.dismantle plan o = .ok a p) :
    p.aside = { o.aside with intake := { o.intake with pointers := .empty } } := by
  obtain ⟨_, o₁, moved, returned⟩ := exists_of_bind_ok returned
  obtain ⟨_, o₂, closed, returned⟩ := exists_of_bind_ok returned
  obtain ⟨_, o₃, joined, returned⟩ := exists_of_bind_ok returned
  obtain ⟨_, o₄, given, returned⟩ := exists_of_bind_ok returned
  have same : o₄.aside = o.aside :=
    calc o₄.aside
      _ = o₃.aside := aside_returned (begins_aside.giveUpSurface plan) given
      _ = o₂.aside := aside_returned (.change aside_retired) joined
      _ = o₁.aside := aside_returned (.change begins_aside.closed) closed
      _ = o.aside := aside_returned (begins_aside.moveTo .dismantling) moved
  obtain ⟨_, o₅, forgotten, returned⟩ := exists_of_bind_ok returned
  cases forgotten
  have left := aside_returned (begins_aside.moveTo .idle) returned
  exact left.trans (congrArg (fun a : Aside =>
    { a with intake := { a.intake with pointers := Input.Pointers.empty } }) same)

/-- A call that offers no events, moves no pointers and ends no activity. -/
theorem heard_quiet {call : HostCall S H} {ready : Bool} (offers : call.events o.pointers = [])
    (follows : call.pointers o.pointers = o.pointers) (kept : (ready && call.dismantles) = false)
    (lasts : call.closes = false) : o.aside.heard ready call = o.aside := by
  simp [Aside.heard, Intake.heard, aside, intake, offers, follows, kept, lasts]

/-- A call that takes the ready surface away. -/
theorem heard_dismantled {call : HostCall S H} (dismantles : call.dismantles = true) :
    o.aside.heard true call =
      { intake := { o.intake with pointers := .empty }, ended := o.ended || call.closes } := by
  simp [Aside.heard, Intake.heard, aside, intake, HostCall.events_of_dismantles dismantles, dismantles]

/-- A call that offers events. -/
theorem heard_told {call : HostCall S H} (ready : Bool) (kept : call.dismantles = false)
    (lasts : call.closes = false) :
    o.aside.heard ready call =
      { intake :=
          { pointers := call.pointers o.pointers
            passed := if ready then o.history.inputs ++ call.events o.pointers else o.history.inputs
            dropped := if ready then o.dropped else o.dropped + (call.events o.pointers).length }
        ended := o.ended } := by
  simp [Aside.heard, Intake.heard, aside, intake, kept, lasts]

theorem aside_release {a : Unit} (returned : Draft.release plan o = .ok a p) :
    p.aside = o.aside.heard (decide (o.stage = .ready)) (.vanished : HostCall S H) := by
  by_cases ready : o.stage = .ready
  · rw [release_of_ready plan ready] at returned
    rw [aside_dismantle returned, decide_eq_true ready, heard_dismantled rfl]
    simp [aside, HostCall.closes]
  · rw [release_of_not_ready plan ready] at returned
    cases returned
    exact (heard_quiet rfl rfl (by simp [ready]) rfl).symm

theorem aside_concluded (o : Outline S) : o.concluded.aside = { o.aside with ended := true } := by
  simp only [concluded]
  split
  · rfl
  · rfl

/-- What the activity's end changes, when the surface that it takes away is `ready` or not. -/
theorem aside_closeActivity (sound : Sound o) (settled : ¬Stranded o)
    {answer : Except GateError Unit} (returned : Draft.closeActivity plan o = .ok answer p) :
    p.aside = o.aside.heard (decide (o.stage = .ready)) (.ended : HostCall S H) := by
  replace returned := (get_bind _ o).symm.trans returned
  cases ended : o.ended with
  | true =>
      have down : ¬o.stage = .ready := by
        intro ready
        have lasts := (sound.live ready).lasts sound
        rw [ended] at lasts
        cases lasts
      rw [if_pos ended] at returned
      cases returned
      simp [Aside.heard, Intake.heard, HostCall.events, HostCall.pointers, aside, intake, down, ended]
  | false =>
      rw [if_neg (by simp [ended])] at returned
      by_cases ready : o.stage = .ready
      · rw [if_pos ready] at returned
        obtain ⟨_, q, dismantled, returned⟩ := exists_of_bind_ok returned
        have left := (sound.live ready).dismantle sound plan
        rw [dismantled] at left
        have idle : Idle q := left.2.1
        replace returned := (finishEngine_eq idle.closed idle.free).symm.trans returned
        cases returned
        rw [aside_concluded, aside_dismantle dismantled, decide_eq_true ready, heard_dismantled rfl]
        simp [HostCall.closes]
      · have idle : Idle o := (sound.stands.resolve_right fun others =>
          others.elim (fun live => ready live.stage) settled)
        rw [if_neg ready] at returned
        replace returned := (finishEngine_eq idle.closed idle.free).symm.trans returned
        cases returned
        rw [aside_concluded]
        simp [Aside.heard, Intake.heard, HostCall.events, HostCall.pointers, HostCall.closes, aside,
          intake, ready]

theorem aside_discard {a : Unit} (returned : Draft.discard plan o = .ok a p) :
    p.aside = o.aside.heard (decide (o.stage = .ready)) (.discarded : HostCall S H) := by
  replace returned := (get_bind _ o).symm.trans returned
  by_cases ready : o.stage = .ready
  · rw [if_pos ready] at returned
    obtain ⟨_, q, dismantled, returned⟩ := exists_of_bind_ok returned
    cases returned
    rw [aside_retired, aside_dismantle dismantled, decide_eq_true ready, heard_dismantled rfl]
    simp [aside, HostCall.closes]
  · rw [if_neg ready] at returned
    cases returned
    rw [aside_retired]
    exact (heard_quiet rfl rfl (by simp [ready]) rfl).symm

theorem aside_motion (sound : Sound o) (settled : ¬Stranded o) {batch : Input.Motion} {n : Nat}
    (returned : Draft.motion batch o = .ok n p) :
    p.aside = o.aside.heard (decide (o.stage = .ready)) (.motion batch : HostCall S H) := by
  rw [motion_eq] at returned
  cases returned
  rw [aside_told, ← sound.ready_eq_stage settled, heard_told o.ready rfl rfl]
  rfl

theorem aside_key (sound : Sound o) (settled : ¬Stranded o) {pressed : Input.Key} {reached : Bool}
    (returned : Draft.key pressed o = .ok reached p) :
    p.aside = o.aside.heard (decide (o.stage = .ready)) (.key pressed : HostCall S H) := by
  rw [key_eq] at returned
  cases returned
  rw [aside_told, ← sound.ready_eq_stage settled, heard_told o.ready rfl rfl]
  rfl

/-- Without a panic, what a call does aside of the cycles depends on the stage alone. -/
theorem aside_report (sound : Sound o) (settled : ¬Stranded o) {report : Report S}
    {answer : Except GateError Unit} (returned : Draft.report plan startable report o = .ok answer p) :
    p.aside = o.aside.heard (decide (o.stage = .ready)) (.reported report : HostCall S H) := by
  cases report with
  | appeared =>
      cases returned
      exact (heard_quiet rfl rfl (Bool.and_false _) rfl).symm
  | sized size surface assets =>
      rw [aside_returned (begins_aside.adopt plan startable size surface) returned]
      exact (heard_quiet rfl rfl (Bool.and_false _) rfl).symm
  | vanished =>
      obtain ⟨_, _, released, returned⟩ := exists_of_bind_ok returned
      cases returned
      exact aside_release (H := H) released
  | ended => exact aside_closeActivity (H := H) sound settled returned
  | motion batch =>
      obtain ⟨_, _, heard, returned⟩ := exists_of_bind_ok returned
      cases returned
      exact aside_motion (H := H) sound settled heard
  | key pressed =>
      obtain ⟨_, _, heard, returned⟩ := exists_of_bind_ok returned
      cases returned
      exact aside_key (H := H) sound settled heard

theorem aside_call (sound : Sound o) (settled : ¬Stranded o) {call : HostCall S H}
    (returned : call.draft plan startable o = .ok answer p) :
    p.aside = o.aside.heard (decide (o.stage = .ready)) call := by
  cases call with
  | opened host =>
      have same := stateOf_host host o
      obtain ⟨_, _, asked, returned⟩ := exists_of_bind_ok returned
      cases returned
      rw [asked] at same
      rw [show p = o from same]
      exact (heard_quiet rfl rfl (Bool.and_false _) rfl).symm
  | focused host hasFocus =>
      have same := stateOf_conduct host.fillScreen o
      have kept : p = o := by
        cases hasFocus with
        | false =>
            cases returned
            rfl
        | true =>
            obtain ⟨_, _, asked, returned⟩ := exists_of_bind_ok returned
            cases returned
            rw [asked] at same
            exact same
      rw [kept]
      exact (heard_quiet rfl rfl (Bool.and_false _) rfl).symm
  | appeared =>
      cases returned
      exact (heard_quiet rfl rfl (Bool.and_false _) rfl).symm
  | sized size surface assets =>
      obtain ⟨_, adopted, -⟩ := exists_of_return_ok returned
      rw [aside_returned (begins_aside.adopt plan startable size surface) adopted]
      exact (heard_quiet rfl rfl (Bool.and_false _) rfl).symm
  | vanished =>
      obtain ⟨_, _, released, returned⟩ := exists_of_bind_ok returned
      cases returned
      exact aside_release released
  | ended =>
      obtain ⟨_, ended, -⟩ := exists_of_return_ok returned
      exact aside_closeActivity sound settled ended
  | motion batch =>
      obtain ⟨_, heard, -⟩ := exists_of_return_ok returned
      exact aside_motion sound settled heard
  | key pressed =>
      obtain ⟨_, heard, -⟩ := exists_of_return_ok returned
      exact aside_key sound settled heard
  | reported report =>
      obtain ⟨_, reported, -⟩ := exists_of_return_ok returned
      exact aside_report sound settled reported
  | discarded =>
      obtain ⟨_, _, discarded, returned⟩ := exists_of_bind_ok returned
      cases returned
      exact aside_discard discarded

end Calls
end Outline
end SurfaceGate
