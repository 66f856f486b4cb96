import SurfaceGate.Proofs.Outline.Walk

/-!
The moves from stage to stage, one behind the other.

Every change of the stage is marked, so a history tells the stage, and each of its moves begins where the one
before it ended. Changes of something else leave no such mark.
-/

namespace SurfaceGate

variable {S : Type}

namespace History

/-- Where the last move led. -/
def stage : History S → Stage
  | [] => .idle
  | .moved _ after :: _ => after
  | _ :: older => stage older

/-- Each move begins where the one before it led. -/
def Linked : History S → Prop
  | [] => True
  | .moved before _ :: older => before = stage older ∧ Linked older
  | _ :: older => Linked older

theorem Linked.tail {mark : Mark S} {older : History S} (linked : Linked (mark :: older)) :
    Linked older := by
  cases mark with
  | moved _ _ => exact linked.2
  | call _ _ | readiness _ | started _ | joined _ => exact linked

theorem Linked.of_suffix {older newer : History S} (hs : older <:+ newer) (linked : Linked newer) :
    Linked older := by
  induction newer with
  | nil => rwa [List.suffix_nil.mp hs]
  | cons mark rest ih =>
      rcases List.suffix_cons_iff.mp hs with rfl | hs
      · exact linked
      · exact ih hs linked.tail

end History

def Mark.moves : Mark S → Bool
  | .moved _ _ => true
  | _ => false

namespace Outline

variable {o p : Outline S}

structure Tracked (o : Outline S) : Prop where
  stage : o.history.stage = o.stage
  linked : o.history.Linked

theorem tracked_new (startPanic? : Nat → Option Panic) : (new startPanic? : Outline S).Tracked :=
  ⟨rfl, trivial⟩

namespace Tracked

theorem same (tracked : o.Tracked) (history : p.history = o.history) (stage : p.stage = o.stage) :
    p.Tracked := by
  refine ⟨?_, ?_⟩
  · rw [history, stage]
    exact tracked.stage
  · rw [history]
    exact tracked.linked

theorem marked (tracked : o.Tracked) {m : Mark S} (still : m.moves = false)
    (history : p.history = m :: o.history) (stage : p.stage = o.stage) : p.Tracked := by
  refine ⟨?_, ?_⟩
  · rw [history, stage]
    cases m with
    | moved _ _ => cases still
    | call _ _ | readiness _ | started _ | joined _ => exact tracked.stage
  · rw [history]
    cases m with
    | moved _ _ => cases still
    | call _ _ | readiness _ | started _ | joined _ => exact tracked.linked

theorem entered (tracked : o.Tracked) (next : Stage) : (o.entered next).Tracked :=
  ⟨rfl, tracked.stage.symm, tracked.linked⟩

theorem retired (tracked : o.Tracked) : o.retired.Tracked := by
  simp only [Outline.retired]
  split
  · exact tracked
  · exact tracked.marked rfl rfl rfl

end Tracked
end Outline

/-- Wherever a call of the host ends, the history still tells the stage. -/
theorem Outline.serves_tracked : Draft.Serves fun o p : Outline S => o.Tracked → p.Tracked where
  asked _ _ _ _ tracked := tracked.marked rfl rfl rfl
  noted _ _ _ tracked := tracked.same rfl rfl
  entered _ next tracked := tracked.entered next
  closed _ tracked := tracked.marked rfl rfl rfl
  retired _ tracked := tracked.retired
  held _ _ _ tracked := tracked.same rfl rfl
  opened _ tracked := tracked.marked rfl rfl rfl
  counted _ tracked := tracked.same rfl rfl
  started _ _ tracked := tracked.marked rfl rfl rfl
  manned _ _ tracked := tracked.same rfl rfl
  ended _ tracked := tracked.same rfl rfl
  forgot _ _ tracked := tracked.same rfl rfl
  passed _ _ tracked := tracked.marked rfl rfl rfl
  dropped _ tracked := tracked.same rfl rfl
  pointed _ _ tracked := tracked.same rfl rfl

end SurfaceGate
