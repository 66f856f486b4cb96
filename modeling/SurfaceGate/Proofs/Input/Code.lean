import SurfaceGate.Input.Code

/-!
What is left of an action in its code.

A code has one byte for the index of a pointer, so an index comes back modulo `256`. The codes of a lone
pointer have no index at all, and need none.
-/

namespace SurfaceGate.Input

/-- The action with its index in one byte. -/
def Action.narrowed : Action → Action
  | .down index => .down (index % 256)
  | .up index => .up (index % 256)
  | .move => .move
  | .cancel => .cancel

theorem Code.action_withIndex (index : Nat) {action : Int} (low : 0 ≤ action ∧ action < 256) :
    Code.action (Code.withIndex action index) = action := by
  simp only [Code.action, Code.withIndex]
  omega

theorem Code.index_withIndex (index : Nat) {action : Int} (low : 0 ≤ action ∧ action < 256) :
    Code.index (Code.withIndex action index) = index % 256 := by
  simp only [Code.index, Code.withIndex]
  omega

theorem Action.ofCode?_withIndex_down (index : Nat) :
    Action.ofCode? (Code.withIndex Code.pointerDown index) = some (.down (index % 256)) := by
  have low : 0 ≤ Code.pointerDown ∧ Code.pointerDown < 256 := by decide
  simp only [Action.ofCode?, Code.action_withIndex index low, Code.index_withIndex index low]
  rfl

theorem Action.ofCode?_withIndex_up (index : Nat) :
    Action.ofCode? (Code.withIndex Code.pointerUp index) = some (.up (index % 256)) := by
  have low : 0 ≤ Code.pointerUp ∧ Code.pointerUp < 256 := by decide
  simp only [Action.ofCode?, Code.action_withIndex index low, Code.index_withIndex index low]
  rfl

theorem Action.ofCode?_toCode (action : Action) (count : Nat) :
    Action.ofCode? (action.toCode count) = some action.narrowed := by
  cases action with
  | down index =>
      simp only [toCode]
      split
      · next lone =>
          rw [lone.2]
          rfl
      · exact ofCode?_withIndex_down index
  | up index =>
      simp only [toCode]
      split
      · next lone =>
          rw [lone.2]
          rfl
      · exact ofCode?_withIndex_up index
  | move => rfl
  | cancel => rfl

end SurfaceGate.Input
