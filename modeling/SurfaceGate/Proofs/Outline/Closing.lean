import SurfaceGate.Proofs.Outline.Intake

/-!
What the end of an activity asks of the engine.

A ready surface is taken back first, and an engine that was ever prepared is finished then, whatever came
of the surface. Only the engine can keep the activity from ending: when it panics as it gives the surface
back.
-/

namespace SurfaceGate

/-- The calls of the host behind the end of an activity, newest first, with those before it. -/
def closingCalls {S : Type} (ready : Bool) (taken : Outcome) (before : List (Call S × Outcome)) :
    List (Call S × Outcome) :=
  let released := if ready then (.attach none, taken) :: before else before
  if everPrepared before then (.finish, .ok) :: released else released

/-- An outcome that lets the host go on. -/
def Outcome.Returned (outcome : Outcome) : Prop :=
  ∀ panic, outcome ≠ .panicked panic

namespace Outline

variable {S α β : Type} {o p : Outline S} {plan : Plan} {stage : Stage}

/-- A step makes one call of the host and ends at a stage. Only the engine's panic keeps it from its end. -/
def Makes (call : Call S) (stage : Stage) (o : Outline S) :
    EStateM.Result Panic (Outline S) α → Prop
  | .ok _ p => p.stage = stage ∧ ∃ outcome : Outcome, outcome.Returned ∧
      p.history.calls = (call, outcome) :: o.history.calls
  | .error panic p => p.history.calls = (call, .panicked panic) :: o.history.calls

namespace Makes

variable {call : Call S} {x : Draft S α} {f : α → Draft S β}

theorem ask (plan : Plan) (call : Call S) (o : Outline S) :
    Makes call o.stage o (Draft.ask plan call o) := by
  rw [Draft.ask_eq]
  cases plan.answer o.history call with
  | ok => exact ⟨rfl, .ok, nofun, rfl⟩
  | failed why => exact ⟨rfl, .failed why, nofun, rfl⟩
  | panicked panic => exact rfl

theorem before {a : α} (first : x o = .ok a p) (uncalled : p.history.calls = o.history.calls)
    (next : Makes call stage p (f a p)) : Makes call stage o ((x >>= f) o) := by
  rw [bind_of_ok first]
  unfold Makes at *
  rwa [← uncalled]

theorem behind {next : Stage} (first : Makes call stage o (x o))
    (rest : ∀ a p, p.stage = stage → ∃ b q, f a p = .ok b q ∧ q.stage = next ∧
      q.history.calls = p.history.calls) : Makes call next o ((x >>= f) o) := by
  cases hx : x o with
  | ok a p =>
      rw [hx] at first
      obtain ⟨reached, outcome, returned, calls⟩ := first
      obtain ⟨b, q, done, last, uncalled⟩ := rest a p reached
      rw [bind_of_ok hx, done]
      exact ⟨last, outcome, returned, uncalled.trans calls⟩
  | error panic p =>
      rw [hx] at first
      rw [bind_of_error hx]
      exact first

theorem takeBack (plan : Plan) (closed : o.ready = false) (prepared : o.phase = .prepared) :
    Makes (.attach none) o.stage o (Draft.takeBack plan o) := by
  refine before (a := o) (p := o) rfl rfl ?_
  rw [if_neg (by simp [closed])]
  refine before (p := { o with bound := false }) rfl rfl ?_
  rw [if_pos prepared]
  refine behind (ask plan (.attach none) _) fun answer p reached => ?_
  cases answer with
  | error why => exact ⟨_, p, rfl, reached, rfl⟩
  | ok _ => exact ⟨_, p, rfl, reached, rfl⟩

theorem giveUpSurface (plan : Plan) (closed : o.ready = false) (prepared : o.phase = .prepared) :
    Makes (.attach none) o.stage o (Draft.giveUpSurface plan o) :=
  behind (takeBack plan closed prepared) fun _ p reached => ⟨(), p.letGo, rfl, reached, rfl⟩

end Makes

theorem Live.makes (live : Live o) (plan : Plan) :
    Makes (.attach none) .idle o (Draft.dismantle plan o) := by
  have leaves : o.stage.allows .dismantling = true := by
    rw [live.stage]
    rfl
  refine .before (moveTo_eq leaves) rfl (.before rfl rfl (.before rfl (calls_retired _) ?_))
  have closed : (o.entered .dismantling).closed.retired.ready = false := by
    rw [retired_eq]
    rfl
  have prepared : (o.entered .dismantling).closed.retired.phase = .prepared := by
    rw [retired_eq]
    exact live.prepared
  have reached : (o.entered .dismantling).closed.retired.stage = .dismantling := by
    rw [retired_eq]
    rfl
  refine .behind (.giveUpSurface plan closed prepared) fun _ p still => ?_
  have allowed : p.stage.allows .idle = true := by
    rw [still, reached]
    rfl
  refine ⟨(), { p with pointers := .empty }.entered .idle, ?_, rfl, rfl⟩
  exact (bind_of_ok (t := { p with pointers := .empty }) rfl).trans (moveTo_eq allowed)

theorem Sound.prepared_iff_ever (sound : Sound o) (lasts : o.ended = false) :
    o.phase = .prepared ↔ everPrepared o.history.calls = true := by
  rw [sound.prepared_iff, History.prepared_iff_ever]
  exact and_iff_left (sound.unfinished (sound.alive lasts))

theorem Sound.calls_concluded (sound : Sound o) (lasts : o.ended = false) :
    o.concluded.history.calls =
      if everPrepared o.history.calls then (.finish, .ok) :: o.history.calls
      else o.history.calls := by
  have prepared := sound.prepared_iff_ever lasts
  rw [concluded]
  by_cases ever : everPrepared o.history.calls = true
  · rw [if_pos ever, if_pos (prepared.mpr ever)]
    rfl
  · rw [if_neg ever, if_neg fun phase => ever (prepared.mp phase)]

/-- The end of an activity that is not over: it answers that all is well, or the engine panics as it gives
the surface back. -/
def Closed (o : Outline S) : EStateM.Result Panic (Outline S) (Except GateError Unit) → Prop
  | .ok answer p => answer = .ok () ∧ p.ended = true ∧ ∃ taken : Outcome, taken.Returned ∧
      p.history.calls = closingCalls (o.stage = .ready) taken o.history.calls
  | .error panic p => o.stage = .ready ∧
      p.history.calls = (.attach none, .panicked panic) :: o.history.calls

theorem closeActivity_of_ready (lasts : o.ended = false) (ready : o.stage = .ready) (plan : Plan) :
    Draft.closeActivity plan o = (Draft.dismantle plan >>= fun _ => Draft.finishEngine) o := by
  refine (get_bind _ o).trans ?_
  rw [if_neg (by simp [lasts]), if_pos ready]

theorem closeActivity_of_not_ready (lasts : o.ended = false) (elsewhere : o.stage ≠ .ready)
    (plan : Plan) : Draft.closeActivity plan o = Draft.finishEngine o := by
  refine (get_bind _ o).trans ?_
  rw [if_neg (by simp [lasts]), if_neg elsewhere]

theorem Sound.closeActivity (sound : Sound o) (settled : ¬Stranded o) (lasts : o.ended = false)
    (plan : Plan) : Closed o (Draft.closeActivity plan o) := by
  by_cases ready : o.stage = .ready
  · have live := sound.live ready
    have ends := live.dismantle sound plan
    have makes := live.makes plan
    rw [closeActivity_of_ready lasts ready]
    cases dismantled : Draft.dismantle plan o with
    | error panic p =>
        rw [dismantled] at makes
        rw [bind_of_error dismantled]
        exact ⟨ready, makes⟩
    | ok _ p =>
        rw [dismantled] at ends makes
        obtain ⟨-, taken, returned, calls⟩ := makes
        obtain ⟨after, idle, -⟩ := ends
        have still : p.ended = false := (congrArg Aside.ended (aside_dismantle dismantled)).trans lasts
        rw [bind_of_ok dismantled, finishEngine_eq idle.closed idle.free]
        refine ⟨rfl, congrArg Aside.ended (aside_concluded p), taken, returned, ?_⟩
        rw [after.calls_concluded still, calls, closingCalls, if_pos (decide_eq_true ready)]
        rfl
  · rcases sound.stands with idle | live | stranded
    · rw [closeActivity_of_not_ready lasts ready, finishEngine_eq idle.closed idle.free]
      refine ⟨rfl, congrArg Aside.ended (aside_concluded o), .ok, nofun, ?_⟩
      simp [sound.calls_concluded lasts, closingCalls, ready]
    · exact absurd live.stage ready
    · exact absurd stranded settled

end Outline
end SurfaceGate
