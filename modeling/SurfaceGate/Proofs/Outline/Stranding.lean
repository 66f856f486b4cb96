import SurfaceGate.Proofs.Outline.Intake

/-!
What stays of a stranded outline.

A panic leaves an outline amid a cycle, with or without a surface. No later call takes it out of the
cycle: new surfaces are refused, that the old one goes is ignored, and the end of the activity and input
touch neither its stage nor its surface.
-/

namespace SurfaceGate.Outline

variable {S H : Type}

structure Stays (o p : Outline S) : Prop where
  stage : p.stage = o.stage
  surface : p.surface = o.surface

instance : Spans (Stays : Outline S → Outline S → Prop) where
  refl _ := ⟨rfl, rfl⟩
  trans first second := ⟨second.stage.trans first.stage, second.surface.trans first.surface⟩

/-- Input touches neither stage nor surface. -/
theorem hears_stays : Draft.Hears (Stays : Outline S → Outline S → Prop) where
  passed _ _ := ⟨rfl, rfl⟩
  dropped _ := ⟨rfl, rfl⟩
  pointed _ _ := ⟨rfl, rfl⟩

/-- Nor does the end of the activity, if no surface is ready. -/
theorem finishes_stays : Draft.Finishes (Stays : Outline S → Outline S → Prop) where
  asked _ _ _ _ := ⟨rfl, rfl⟩
  noted _ _ _ := ⟨rfl, rfl⟩
  ended _ := ⟨rfl, rfl⟩

section Calls

variable {o : Outline S}

/-- A call that neither brings a surface nor takes one away. -/
theorem stays_call (plan : Plan) (startable : Bool) {call : HostCall S H} (unbrought : call.brings = false)
    (kept : call.dismantles = false) : Stays o (stateOf (call.draft plan startable o)) :=
  Draft.stateOf_call (Spans.refl o) (fun brings => nomatch unbrought.symm.trans brings)
    (fun takes => nomatch kept.symm.trans takes) (fun takes => nomatch kept.symm.trans takes)
    (fun takes => nomatch kept.symm.trans takes) (fun batch => hears_stays.motion batch o)
    fun pressed => hears_stays.key pressed o

namespace Stranded

variable (stranded : Stranded o)
include stranded

theorem stays_adopt (plan : Plan) (startable : Bool) (size : Extent) (surface : S) :
    Stays o (stateOf (Draft.adopt plan startable size surface o)) := by
  obtain ⟨error, refused⟩ := stranded.adopt plan startable size surface
  rw [refused]
  exact Spans.refl o

theorem stays_release (plan : Plan) : Stays o (stateOf (Draft.release plan o)) := by
  rw [release_of_not_ready plan stranded.not_ready]
  exact Spans.refl o

theorem stays_closeActivity (plan : Plan) : Stays o (stateOf (Draft.closeActivity plan o)) := by
  simp only [Draft.closeActivity]
  rw [get_bind]
  split
  · exact Spans.refl o
  · rw [if_neg stranded.not_ready]
    exact finishes_stays.finishEngine o

theorem stays_discard (plan : Plan) : Stays o (stateOf (Draft.discard plan o)) := by
  simp only [Draft.discard]
  rw [get_bind, if_neg stranded.not_ready]
  have still : o.retired = o := retired_of_free stranded.free
  change Stays o o.retired
  rw [still]
  exact Spans.refl o

/-- No call moves a stranded outline, or takes its surface. -/
theorem stays (plan : Plan) (startable : Bool) (call : HostCall S H) :
    Stays o (stateOf (call.draft plan startable o)) :=
  Draft.stateOf_call (Spans.refl o) (fun _ => stranded.stays_adopt plan startable)
    (fun _ => stranded.stays_release plan) (fun _ => stranded.stays_closeActivity plan)
    (fun _ => stranded.stays_discard plan) (fun batch => hears_stays.motion batch o)
    fun pressed => hears_stays.key pressed o

end Stranded
end Calls
end SurfaceGate.Outline
