import SurfaceGate.Proofs.Run

/-!
Steps on a state, and what holds along them.

A step is peeled off a sequence when it is known how it ends. A relation holds along a step if it holds from
where the step begins, wherever that is, to where it ends, be it by a panic. For a relation that is reflexive
and transitive it is enough to look at the parts of a step.
-/

namespace SurfaceGate

variable {σ α β : Type}

theorem bind_of_ok {x : EStateM Panic σ α} {f : α → EStateM Panic σ β} {s t : σ} {a : α}
    (h : x s = .ok a t) : (x >>= f) s = f a t := by
  change EStateM.bind x f s = f a t
  rw [EStateM.bind, h]

theorem bind_of_error {x : EStateM Panic σ α} {f : α → EStateM Panic σ β} {s t : σ}
    {panic : Panic} (h : x s = .error panic t) : (x >>= f) s = .error panic t := by
  change EStateM.bind x f s = .error panic t
  rw [EStateM.bind, h]

theorem get_bind (f : σ → EStateM Panic σ β) (s : σ) : (get >>= f) s = f s s :=
  rfl

theorem exists_of_bind_ok {x : EStateM Panic σ α} {f : α → EStateM Panic σ β} {s u : σ} {b : β}
    (h : (x >>= f) s = .ok b u) : ∃ a t, x s = .ok a t ∧ f a t = .ok b u := by
  cases hx : x s with
  | ok a t =>
      rw [bind_of_ok hx] at h
      exact ⟨a, t, rfl, h⟩
  | error panic t =>
      rw [bind_of_error hx] at h
      cases h

theorem exists_of_return_ok {x : EStateM Panic σ α} {f : α → β} {s t : σ} {b : β}
    (h : (do return f (← x) : EStateM Panic σ β) s = .ok b t) : ∃ a, x s = .ok a t ∧ b = f a := by
  obtain ⟨a, u, first, last⟩ := exists_of_bind_ok h
  cases last
  exact ⟨a, first, rfl⟩

/-- A step that comes first under a condition did so, or did not. -/
theorem exists_of_perhaps_ok {p : Prop} [Decidable p] {x : EStateM Panic σ PUnit}
    {f : PUnit → EStateM Panic σ β} {s u : σ} {b : β}
    (h : (if p then x >>= f else f PUnit.unit) s = .ok b u) :
    ∃ t, (x s = .ok PUnit.unit t ∨ t = s) ∧ f PUnit.unit t = .ok b u := by
  split at h
  · obtain ⟨_, t, first, last⟩ := exists_of_bind_ok h
    exact ⟨t, .inl first, last⟩
  · exact ⟨s, .inr rfl, h⟩

theorem error_of_bind {x : EStateM Panic σ α} {f : α → EStateM Panic σ β} {s u : σ} {panic : Panic}
    (h : (x >>= f) s = .error panic u) :
    x s = .error panic u ∨ ∃ a t, x s = .ok a t ∧ f a t = .error panic u := by
  cases hx : x s with
  | ok a t =>
      rw [bind_of_ok hx] at h
      exact .inr ⟨a, t, rfl, h⟩
  | error panic t =>
      rw [bind_of_error hx] at h
      cases h
      exact .inl rfl

/-- What holds along one step and then along the next holds along both. -/
theorem stateOf_bind_of {R : σ → σ → Prop} (trans : ∀ {s t u}, R s t → R t u → R s u)
    {x : EStateM Panic σ α} {f : α → EStateM Panic σ β} {s : σ} (first : R s (stateOf (x s)))
    (next : ∀ a t, R s t → R t (stateOf (f a t))) : R s (stateOf ((x >>= f) s)) := by
  cases hx : x s with
  | ok a t =>
      rw [hx] at first
      rw [bind_of_ok hx]
      exact trans first (next a t first)
  | error panic t =>
      rw [hx] at first
      rwa [bind_of_error hx]

theorem stateOf_return (x : EStateM Panic σ α) (f : α → β) (s : σ) :
    stateOf ((do return f (← x) : EStateM Panic σ β) s) = stateOf (x s) := by
  cases hx : x s with
  | ok a t =>
      rw [bind_of_ok hx]
      rfl
  | error panic t =>
      rw [bind_of_error hx]
      rfl

/-- The relation holds from where a step begins to where it ends. -/
def Along (R : σ → σ → Prop) (x : EStateM Panic σ α) : Prop :=
  ∀ s, R s (stateOf (x s))

/-- What holds where nothing is done, and from step to step. -/
class Spans (R : σ → σ → Prop) : Prop where
  refl : ∀ s, R s s
  trans : ∀ {s t u}, R s t → R t u → R s u

instance (view : σ → β) : Spans fun s t => view t = view s where
  refl _ := rfl
  trans first second := second.trans first

instance (I : σ → Prop) : Spans fun s t => I s → I t where
  refl _ := id
  trans first second := second ∘ first

/-- A step keeps an invariant, whether it returns or panics. -/
abbrev Preserves (I : σ → Prop) (x : EStateM Panic σ α) : Prop :=
  Along (fun s t => I s → I t) x

namespace Along

variable {R : σ → σ → Prop}

theorem change {f : σ → σ} (changed : ∀ s, R s (f s)) : Along R (modify f : EStateM Panic σ PUnit) :=
  changed

theorem read {f : σ → EStateM Panic σ β} (next : ∀ s, Along R (f s)) : Along R (get >>= f) :=
  fun s => next s s

theorem branch {p : Prop} [Decidable p] {x y : EStateM Panic σ α} (holds : Along R x)
    (fails : Along R y) : Along R (if p then x else y) := by
  split
  · exact holds
  · exact fails

variable [Spans R]

theorem pure (a : α) : Along R (pure a : EStateM Panic σ α) :=
  Spans.refl

theorem throw (panic : Panic) : Along R (throw panic : EStateM Panic σ α) :=
  Spans.refl

theorem bind {x : EStateM Panic σ α} {f : α → EStateM Panic σ β} (first : Along R x)
    (next : ∀ a, Along R (f a)) : Along R (x >>= f) :=
  fun s => stateOf_bind_of Spans.trans (first s) fun a t _ => next a t

/-- A step may come first, if a condition holds. -/
theorem perhaps {p : Prop} [Decidable p] {x : EStateM Panic σ PUnit}
    {f : PUnit → EStateM Panic σ β} (first : Along R x) (next : Along R (f PUnit.unit)) :
    Along R (if p then x >>= f else f PUnit.unit) :=
  branch (bind first fun _ => next) next

theorem all {ι : Type} {f : ι → EStateM Panic σ PUnit} (each : ∀ i, Along R (f i))
    (items : List ι) : Along R (items.forM f) := by
  induction items with
  | nil => exact pure _
  | cons item rest ih => exact bind (each item) fun _ => ih

end Along

theorem Preserves.left {I : σ → Prop} {x : EStateM Panic σ α} (kept : Preserves I x) {s t : σ} {a : α}
    (holds : I s) (returned : x s = .ok a t) : I t := by
  have after := kept s holds
  rwa [returned] at after

/-- Begun with a property, a step returns with it, and the relation holds along the step. -/
def Passes (P : σ → Prop) (R : σ → σ → Prop) (x : EStateM Panic σ α) : Prop :=
  ∀ s, P s → ∃ a t, x s = .ok a t ∧ P t ∧ R s t

namespace Passes

variable {P : σ → Prop} {R : σ → σ → Prop}

theorem imp {R' : σ → σ → Prop} {x : EStateM Panic σ α} (passes : Passes P R x)
    (weaker : ∀ s t, P s → R s t → R' s t) : Passes P R' x := by
  intro s before
  obtain ⟨a, t, returned, after, along⟩ := passes s before
  exact ⟨a, t, returned, after, weaker s t before along⟩

theorem read {f : σ → EStateM Panic σ β} (next : ∀ s, Passes P R (f s)) : Passes P R (get >>= f) :=
  fun s => next s s

theorem branch {p : Prop} [Decidable p] {x y : EStateM Panic σ α} (holds : Passes P R x)
    (fails : Passes P R y) : Passes P R (if p then x else y) := by
  split
  · exact holds
  · exact fails

theorem change {f : σ → σ} (kept : ∀ s, P s → P (f s)) (changed : ∀ s, R s (f s)) :
    Passes P R (modify f : EStateM Panic σ PUnit) :=
  fun s before => ⟨_, _, rfl, kept s before, changed s⟩

variable [Spans R]

theorem pure (a : α) : Passes P R (pure a : EStateM Panic σ α) :=
  fun s before => ⟨a, s, rfl, before, Spans.refl s⟩

theorem bind {x : EStateM Panic σ α} {f : α → EStateM Panic σ β} (first : Passes P R x)
    (next : ∀ a, Passes P R (f a)) : Passes P R (x >>= f) := by
  intro s before
  obtain ⟨a, t, returned, amid, along⟩ := first s before
  obtain ⟨b, u, finished, after, further⟩ := next a t amid
  exact ⟨b, u, (bind_of_ok returned).trans finished, after, Spans.trans along further⟩

end Passes
end SurfaceGate
