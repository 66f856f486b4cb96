import SurfaceGate.Proofs.Outline.Intake

/-!
What a call that moves the surface does to the pointers and to the input, wherever a panic may stop it.

No event reaches the engine meanwhile. The pointers stay, or they are forgotten behind a closed gate, and
then the gate stays closed: only a new surface opens it again.
-/

namespace SurfaceGate.Outline

variable {S : Type} {o p q : Outline S}

structure Shifted (o p : Outline S) : Prop where
  inputs : p.history.inputs = o.history.inputs
  ended : o.ended = true → p.ended = true
  pointers : p.pointers = o.pointers ∨ (p.pointers = .empty ∧ p.ready = false)

theorem Shifted.of_aside (same : p.aside = o.aside) : Shifted o p where
  inputs := congrArg (fun a => a.intake.passed) same
  ended := (congrArg Aside.ended same).trans
  pointers := .inl (congrArg (fun a => a.intake.pointers) same)

/-- Besides, a gate that is closed stays closed. -/
structure Lowered (o p : Outline S) : Prop extends Shifted o p where
  closed : o.ready = false → p.ready = false

theorem Lowered.of_aside (same : p.aside = o.aside) (ready : p.ready = o.ready) : Lowered o p where
  toShifted := .of_aside same
  closed := ready.trans

theorem Lowered.trans (first : Lowered o p) (second : Lowered p q) : Lowered o q where
  inputs := second.inputs.trans first.inputs
  ended := second.ended ∘ first.ended
  closed := second.closed ∘ first.closed
  pointers := by
    rcases second.pointers with same | forgotten
    · rcases first.pointers with kept | ⟨none_down, shut⟩
      · exact .inl (same.trans kept)
      · exact .inr ⟨same.trans none_down, second.closed shut⟩
    · exact .inr forgotten

instance : Spans (Lowered : Outline S → Outline S → Prop) where
  refl _ := .of_aside rfl rfl
  trans := Lowered.trans

/-- Who takes a surface away opens no gate and forgets no pointers behind an open one. -/
theorem closes_lowered : Draft.Closes (Lowered : Outline S → Outline S → Prop) where
  asked o _ outcome lifecycle := .of_aside (aside_mark o lifecycle outcome) rfl
  noted _ _ _ := .of_aside rfl rfl
  entered _ _ := .of_aside rfl rfl
  closed o :=
    have shifted : Shifted o o.closed := .of_aside rfl
    ⟨shifted, fun _ => rfl⟩
  retired o := .of_aside (aside_retired o) (by rw [retired_eq])
  held _ _ _ := .of_aside rfl rfl
  ended _ := ⟨⟨rfl, fun _ => rfl, .inl rfl⟩, id⟩
  forgot _ shut := ⟨⟨rfl, id, .inr ⟨rfl, shut⟩⟩, id⟩

theorem shifted_adopt (plan : Plan) (startable : Bool) (size : Extent) (surface : S) (o : Outline S) :
    Shifted o (stateOf (Draft.adopt plan startable size surface o)) :=
  .of_aside (begins_aside.adopt plan startable size surface o)

end SurfaceGate.Outline
