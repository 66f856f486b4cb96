import SurfaceGate.Proofs.Adoption
import SurfaceGate.Proofs.Outline.Moves

/-!
The controller moves from stage to stage as the table allows.

Every change of the stage is in the journal, those amid a call as well, and each begins where the one before
it led. All of them are moves of the table, also the ones that are made without a look at it, and also
behind a panic; so a move is never refused, and whatever a call panics with came from the engine, from the
start of a thread, or from the host itself.
-/

namespace SurfaceGate

variable {S H α β : Type}

/-- The host's own conduct is asked for in the call, and panics. -/
def HostCall.PassesOn (panic : Panic) : HostCall S H → Prop
  | .opened host => host.fillScreen.answer = .error panic ∨ host.startSound.answer = .error panic
  | .focused host _ => host.fillScreen.answer = .error panic
  | _ => False

namespace Outline

variable {o p : Outline S} {panic : Panic}

theorem panic_of_return {x : Draft S α} {answer : α → β}
    (panicked : (do return answer (← x) : Draft S β) o = .error panic p) : x o = .error panic p := by
  rcases error_of_bind panicked with first | ⟨_, _, _, last⟩
  · exact first
  · cases last

theorem answer_of_draft {conduct : Conduct H α} (panicked : conduct.draft o = .error panic p) :
    conduct.answer = .error panic := by
  simp only [Conduct.draft] at panicked
  cases answer : conduct.answer with
  | ok a =>
      rw [answer] at panicked
      cases panicked
  | error panic =>
      rw [answer] at panicked
      cases panicked
      rfl

theorem panicked_of_host {host : HostConduct H} (panicked : host.draft o = .error panic p) :
    host.fillScreen.answer = .error panic ∨ host.startSound.answer = .error panic := by
  rcases error_of_bind panicked with filled | ⟨_, _, _, rest⟩
  · exact .inl (answer_of_draft filled)
  · exact .inr (answer_of_draft (panic_of_return rest))

/-- A panic of a call comes out of the engine's last call, out of the start of the worker, or out of the
host's conduct. -/
def Caused (o : Outline S) (call : HostCall S H) (panic : Panic) (p : Outline S) : Prop :=
  (∃ made earlier, p.history.calls = (made, .panicked panic) :: earlier ∧
      o.history.calls <:+ earlier) ∨
    p.startPanic? p.cycles = some panic ∨ call.PassesOn panic

theorem caused_of_ends {call : HostCall S H} {Q : Answer → Outline S → Prop} {plan : Plan}
    {startable : Bool} (ends : Ends o Q (call.draft plan startable o))
    (panicked : call.draft plan startable o = .error panic p) : Caused o call panic p := by
  rw [panicked] at ends
  exact Torn.cause ends |>.imp_right .inl

theorem Sound.caused (sound : Sound o) {call : HostCall S H} {plan : Plan} {startable : Bool}
    (panicked : call.draft plan startable o = .error panic p) : Caused o call panic p := by
  have returned {α : Type} {answer : α → Answer} {x : Draft S α} {Q : α → Outline S → Prop}
      (ends : Ends o Q (x o)) :
      Ends o (fun _ _ => True) ((do return answer (← x) : Draft S Answer) o) :=
    .bind ends fun _ _ _ => trivial
  cases call with
  | opened host => exact .inr (.inr (panicked_of_host (panic_of_return panicked)))
  | focused host hasFocus =>
      refine .inr (.inr ?_)
      cases hasFocus with
      | false => cases panicked
      | true => exact answer_of_draft (panic_of_return panicked)
  | appeared => cases panicked
  | sized size surface _ =>
      exact caused_of_ends (returned (adopt_ends sound plan startable size surface)) panicked
  | vanished => exact caused_of_ends (returned (release_ends sound plan)) panicked
  | ended => exact caused_of_ends (returned (closeActivity_ends sound plan)) panicked
  | motion batch => exact caused_of_ends (returned (motion_ends sound batch)) panicked
  | key pressed => exact caused_of_ends (returned (key_ends sound pressed)) panicked
  | reported report => exact caused_of_ends (returned (report_ends (H := H) sound plan startable report)) panicked
  | discarded => exact caused_of_ends (returned (discard_ends sound plan)) panicked

end Outline

variable {E : Engine}

/-- Where the last move led. -/
def Journal.stage (journal : Journal E H) : Stage :=
  journal.history.stage

namespace Controller

variable {c d : Controller E H}

/-- Every change of the stage in a run is a move of the table, from the stage that was reached before, and no
panic comes from a move that is refused. Without a panic no call returns amid a cycle. -/
structure Moves (c : Controller E H) (turns : List (Turn E.Surface H)) : Prop where
  told : (c.run turns).stage = (c.run turns).session.journal.stage
  allowed : ∀ before after older, .moved before after :: older <:+ (c.run turns).session.journal →
    before = Journal.stage older ∧ before.allows after = true
  caused : ∀ earlier k call later panic d, turns = earlier ++ .called k call :: later →
    call.perform k (c.run earlier) = .error panic d →
      (∃ made older, d.hostCalls = (made, .panicked panic) :: older ∧
        (c.run earlier).hostCalls <:+ older) ∨
      d.settings.startPanic? d.cycles = some panic ∨ call.PassesOn panic
  settles : (∀ r ∈ c.transcript turns, Returns r) →
    ∀ r ∈ c.transcript turns, (stateOf r).stage = .idle ∨ (stateOf r).stage = .ready

theorem Sound.tracked_turned (sound : c.Sound) (tracked : c.outline.Tracked) (turn : Turn E.Surface H) :
    (c.turned turn).outline.Tracked := by
  cases turn with
  | called k call =>
      obtain ⟨plan, same, -⟩ := sound.mirrored_call k call
      have left := Outline.serves_tracked.call plan k.startable call c.outline tracked
      rwa [same, stateOf_withState] at left
  | worked steps => rwa [turned_worked, outline_rested]

theorem Sound.tracked_run (sound : c.Sound) (tracked : c.outline.Tracked)
    (turns : List (Turn E.Surface H)) : (c.run turns).outline.Tracked := by
  induction turns generalizing c with
  | nil => exact tracked
  | cons turn later ih => exact ih (sound.turned turn) (sound.tracked_turned tracked turn)

theorem Sound.caused (sound : c.Sound) {k : Conditions} {call : HostCall E.Surface H} {panic : Panic}
    (panicked : call.perform k c = .error panic d) :
    (∃ made older, d.hostCalls = (made, .panicked panic) :: older ∧ c.hostCalls <:+ older) ∨
      d.settings.startPanic? d.cycles = some panic ∨ call.PassesOn panic := by
  obtain ⟨plan, same, gated⟩ := sound.mirrored_call k call
  rw [panicked] at same gated
  have before : c.hostCalls = c.outline.history.calls := sound.gated.owned.hostCalls_eq
  refine (sound.outline.caused same).imp_left fun ⟨made, older, calls, suffix⟩ => ⟨made, older, ?_, ?_⟩
  · exact gated.owned.hostCalls_eq.trans calls
  · exact before ▸ suffix

theorem Sound.settles (sound : c.Sound) (settled : ¬c.outline.Stranded) :
    c.stage = .idle ∨ c.stage = .ready := by
  rcases sound.outline.stands with idle | live | stranded
  · exact .inl idle.stage
  · exact .inr live.stage
  · exact absurd stranded settled

theorem Sound.settles_transcript (sound : c.Sound) (settled : ¬c.outline.Stranded)
    (turns : List (Turn E.Surface H)) (returned : ∀ r ∈ c.transcript turns, Returns r) :
    ∀ r ∈ c.transcript turns, (stateOf r).stage = .idle ∨ (stateOf r).stage = .ready := by
  refine Sound.induction_run (P := fun c turns => ∀ r ∈ c.transcript turns,
    (stateOf r).stage = .idle ∨ (stateOf r).stage = .ready) ?_ ?_ ?_ sound settled turns returned
  · intro c r made
    cases made
  · intro c d k call answer later sound settled returned ih
    obtain ⟨left, calm⟩ := sound.returned settled returned
    rw [transcript, returned]
    exact List.forall_mem_cons.mpr ⟨left.settles calm, ih⟩
  · intro c steps later ih
    exact ih

/-- Under any conditions the controller makes moves of the table only, and its own look at the table never
fails. -/
theorem run_moves (engine : E.State) (settings : RenderSettings) (turns : List (Turn E.Surface H)) :
    (new engine settings : Controller E H).Moves turns := by
  have start := sound_new (H := H) engine settings
  have sound := start.run turns
  have tracked := start.tracked_run (Outline.tracked_new _) turns
  refine ⟨tracked.stage.symm, fun before after older suffix => ?_,
    fun earlier k call later panic d _ panicked => (start.run earlier).caused panicked,
    start.settles_transcript (settled_new engine settings) turns⟩
  have marked := Journal.suffix_history suffix
  have linked := tracked.linked.of_suffix marked
  exact ⟨linked.1, (History.lawful_of_suffix marked sound.outline.lawful).1⟩

end Controller
end SurfaceGate
