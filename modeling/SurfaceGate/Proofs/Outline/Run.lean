import SurfaceGate.Proofs.Outline.Simulation

/-!
Runs of a controller are mirrored by runs of the machine on outlines.

Of a run the machine needs the calls and, for each of them, whether the system starts a thread. How
far the worker came and how the frames went is not part of that.
-/

namespace SurfaceGate

variable {E : Engine} {H : Type} {S : Type} {α : Type}

def Conduct.draft (conduct : Conduct H α) : Draft S α :=
  match conduct.answer with
  | .ok a => pure a
  | .error panic => throw panic

def HostConduct.draft (host : HostConduct H) : Draft S Unit := do
  host.fillScreen.draft
  let _ ← host.startSound.draft

def HostCall.draft (plan : Plan) (startable : Bool) : HostCall S H → Draft S Answer
  | .opened host => do host.draft; return .done
  | .focused host hasFocus => do
      if hasFocus then host.fillScreen.draft
      return .done
  | .appeared => return .done
  | .sized size surface _ => do return .result (← Draft.adopt plan startable size surface)
  | .vanished => do Draft.release plan; return .done
  | .ended => do return .result (← Draft.closeActivity plan)
  | .motion batch => do return .count (← Draft.motion batch)
  | .key pressed => do return .reached (← Draft.key pressed)
  | .reported report => do return .result (← Draft.report plan startable report)
  | .discarded => do Draft.discard plan; return .done

/-- The calls of a run, each with whether a thread can be started. -/
def schedule (turns : List (Turn S H)) : List (Bool × HostCall S H) :=
  turns.filterMap fun
    | .called k call => some (k.startable, call)
    | .worked _ => none

namespace Outline

def run (plan : Plan) (o : Outline S) (calls : List (Bool × HostCall S H)) : Outline S :=
  calls.foldl (fun o call => stateOf (call.2.draft plan call.1 o)) o

def transcript (plan : Plan) (o : Outline S) :
    List (Bool × HostCall S H) → List (EStateM.Result Panic (Outline S) Answer)
  | [] => []
  | (startable, call) :: later =>
      call.draft plan startable o :: transcript plan (stateOf (call.draft plan startable o)) later

end Outline

namespace Mirrors

open Control

variable {plan : Plan} {β : Type}

theorem note (deeds : List H) :
    Mirrors plan (deeds.forM fun deed => onSession (Act.note (.host deed)) : Control E H PUnit)
      (Pure.pure PUnit.unit) := by
  induction deeds with
  | nil => exact pure _
  | cons deed rest ih =>
      refine silent (unmoved (fun _ => rfl) fun s => ?_) ih
      exact Session.Unmoved.write rfl nofun

theorem conduct (conduct : Conduct H α) :
    Mirrors plan (conduct.perform : Control E H α) conduct.draft := by
  refine silent (note conduct.deeds) ?_
  simp only [Conduct.draft]
  cases conduct.answer with
  | ok a => exact pure a
  | error panic => exact throw panic

/-- That the host was asked for its support is not on the outline. -/
theorem openActivity (host : HostConduct H) :
    Mirrors plan (Controller.openActivity (E := E) (H := H) host.support : Control E H Unit)
      host.draft := by
  refine greeting fun text => silent (log _ _) (bind (conduct _) fun _ => bind (conduct _) fun a => ?_)
  have asked : Mirrors plan (modify ({ · with supported := true }) : Control E H Unit)
      (Pure.pure ()) :=
    change (g := id) (fun _ => rfl) fun _ => rfl
  cases a with
  | error why => exact silent (log _ _) asked
  | ok _ => exact asked

theorem call (k : Conditions) (call : HostCall E.Surface H) :
    Mirrors plan (call.perform k : Control E H Answer) (call.draft plan k.startable) := by
  cases call with
  | opened host => exact bind (openActivity host) fun _ => pure _
  | focused host hasFocus =>
      cases hasFocus with
      | false => exact pure _
      | true => exact bind (conduct host.fillScreen) fun _ => pure _
  | appeared => exact silent (log _ _) (pure _)
  | sized size surface assets => exact bind (adopt k size surface assets) fun _ => pure _
  | vanished => exact bind (release k) fun _ => pure _
  | ended => exact bind (closeActivity k) fun _ => pure _
  | motion batch => exact bind (motion k batch) fun _ => pure _
  | key pressed => exact bind (key k pressed) fun _ => pure _
  | reported told => exact bind (report k told) fun _ => pure _
  | discarded => exact bind (discard k) fun _ => pure _

end Mirrors

namespace Controller

theorem outline_rested (c : Controller E H) (steps : Nat) : (c.rested steps).outline = c.outline := by
  have still := Session.Unmoved.steps steps c.session
  simp only [rested, outline, still.phase, still.bound, still.ready, still.worker, still.history]

theorem suffix_turned (c : Controller E H) (turn : Turn E.Surface H) :
    c.session.journal <:+ (c.turned turn).session.journal := by
  cases turn with
  | called k call =>
      let plan : Plan := fun _ _ => .ok
      have mirrors : Mirrors plan (call.perform k : Control E H Answer) (call.draft plan k.startable) :=
        .call k call
      exact mirrors.grows c
  | worked steps => exact (Session.Unmoved.steps steps c.session).journal

theorem suffix_run (c : Controller E H) (turns : List (Turn E.Surface H)) :
    c.session.journal <:+ (c.run turns).session.journal := by
  induction turns generalizing c with
  | nil => exact List.suffix_rfl
  | cons turn later ih => exact (suffix_turned c turn).trans (ih _)

end Controller

variable {plan : Plan}

/-- A run as the outlines show it. -/
structure Mirrored (plan : Plan) (c : Controller E H) (turns : List (Turn E.Surface H)) : Prop where
  outline : (c.run turns).outline = c.outline.run plan (schedule turns)
  transcript : (c.transcript turns).map (withState Controller.outline) =
    c.outline.transcript plan (schedule turns)
  gated : (c.run turns).session.Gated

theorem mirrored_run {c : Controller E H} (gated : c.session.Gated)
    {turns : List (Turn E.Surface H)}
    (explained : plan.Explains (c.run turns).outline.history) : Mirrored plan c turns := by
  induction turns generalizing c with
  | nil => exact ⟨rfl, rfl, gated⟩
  | cons turn later ih =>
      cases turn with
      | called k call =>
          let d := stateOf (call.perform k c)
          obtain ⟨same, kept⟩ := (Mirrors.call k call).agrees c gated
            (plan.explains_of_suffix (Journal.suffix_history (Controller.suffix_run d later)) explained)
          have left : stateOf (call.draft plan k.startable c.outline) = d.outline := by
            rw [same, stateOf_withState]
          have rest := ih (c := d) kept explained
          refine ⟨?_, ?_, rest.gated⟩
          · change (d.run later).outline =
              Outline.run plan (stateOf (call.draft plan k.startable c.outline)) (schedule later)
            rw [left, rest.outline]
          · change withState Controller.outline (call.perform k c) ::
                (d.transcript later).map (withState Controller.outline) =
              call.draft plan k.startable c.outline ::
                Outline.transcript plan (stateOf (call.draft plan k.startable c.outline))
                  (schedule later)
            rw [left, same, rest.transcript]
      | worked steps =>
          have still := Controller.outline_rested c steps
          have kept := (Session.Unmoved.steps steps c.session).gated gated
          have rest := ih (c := c.rested steps) kept explained
          refine ⟨?_, ?_, rest.gated⟩
          · rw [← still]
            exact rest.outline
          · rw [← still]
            exact rest.transcript

theorem Session.gated_new (engine : E.State) : (Session.new engine : Session E H).Gated :=
  ⟨trivial, rfl, (fun _ held => nomatch held), fun _ made => nomatch made⟩

end SurfaceGate
