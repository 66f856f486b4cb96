import Mathlib.Data.List.Induction
import SurfaceGate.Clear.Engine
import SurfaceGate.Proofs.Delivery
import SurfaceGate.Proofs.Invariant

/-!
The fingers that the engine counts.

Only input changes the count, so the events that reached the engine tell it. It stops at zero: an up that
finds no finger makes up for no later down. So fingers are left exactly if some last part of the events has
more downs than ups.
-/

namespace SurfaceGate

namespace Input.Event

def isDown : Event → Bool
  | .touch .down _ _ => true
  | _ => false

def isUp : Event → Bool
  | .touch .up _ _ => true
  | _ => false

end Input.Event

namespace Clear

open Graphics (System)
open Input (Event)

/-- The fingers behind an event. -/
def touched (fingers : Nat) : Event → Nat
  | .touch action _ _ => fingersAfter fingers action
  | .key _ _ => fingers

/-- The fingers that events leave, the oldest event first. -/
def tally (events : List Event) : Nat :=
  events.foldl touched 0

def downs (events : List Event) : Nat :=
  events.countP Event.isDown

def ups (events : List Event) : Nat :=
  events.countP Event.isUp

section Tally

variable {events : List Event} {n : Nat}

theorem tally_append (earlier later : List Event) :
    tally (earlier ++ later) = later.foldl touched (tally earlier) :=
  List.foldl_append

theorem downs_append (earlier later : List Event) :
    downs (earlier ++ later) = downs earlier + downs later :=
  List.countP_append

theorem ups_append (earlier later : List Event) : ups (earlier ++ later) = ups earlier + ups later :=
  List.countP_append

/-- Ups and no downs take away what they can. -/
theorem foldl_touched_of_ups (lifts : ∀ event ∈ events, event.isUp = true) (fingers : Nat) :
    events.foldl touched fingers = fingers - events.length := by
  induction events generalizing fingers with
  | nil => rfl
  | cons event rest ih =>
      obtain ⟨first, others⟩ := List.forall_mem_cons.mp lifts
      cases event with
      | key action code => cases first
      | touch action pointer position =>
          cases action with
          | down | move => cases first
          | up =>
              rw [List.foldl_cons, ih others, touched, fingersAfter, List.length_cons]
              omega

/-- Moves and keys change nothing. -/
theorem foldl_touched_of_still (still : ∀ event ∈ events, event.isDown = false ∧ event.isUp = false)
    (fingers : Nat) : events.foldl touched fingers = fingers := by
  induction events with
  | nil => rfl
  | cons event rest ih =>
      obtain ⟨⟨noDown, noUp⟩, others⟩ := List.forall_mem_cons.mp still
      have same : touched fingers event = fingers := by
        cases event with
        | key action code => rfl
        | touch action pointer position =>
            cases action with
            | down => cases noDown
            | up => cases noUp
            | move => rfl
      rw [List.foldl_cons, same, ih others]

/-- More than `n` fingers are left if in some last part of the events the downs exceed the ups by more. -/
theorem lt_tally_iff :
    n < tally events ↔ ∃ later, later <:+ events ∧ ups later + n < downs later := by
  induction events using List.reverseRecOn generalizing n with
  | nil =>
      refine ⟨nofun, fun ⟨later, last, more⟩ => ?_⟩
      rw [List.suffix_nil.mp last] at more
      exact absurd more (Nat.not_lt_zero _)
  | append_singleton earlier event ih =>
      have parts : (∃ later, later <:+ earlier ++ [event] ∧ ups later + n < downs later) ↔
          ∃ later, later <:+ earlier ∧
            ups later + ups [event] + n < downs later + downs [event] := by
        constructor
        · rintro ⟨later, last, more⟩
          rcases List.suffix_concat_iff.mp last with rfl | ⟨before, rfl, inner⟩
          · exact absurd more (Nat.not_lt_zero _)
          · rw [ups_append, downs_append] at more
            exact ⟨before, inner, more⟩
        · rintro ⟨before, last, more⟩
          refine ⟨before ++ [event], List.suffix_concat_iff.mpr (.inr ⟨before, rfl, last⟩), ?_⟩
          rwa [ups_append, downs_append]
      rw [parts, tally_append, List.foldl_cons, List.foldl_nil]
      cases event with
      | key action code => exact ih
      | touch action pointer position =>
          cases action with
          | move => exact ih
          | down =>
              change n < tally earlier + 1 ↔
                ∃ later, later <:+ earlier ∧ ups later + 0 + n < downs later + 1
              cases n with
              | zero => exact ⟨fun _ => ⟨[], List.nil_suffix, Nat.one_pos⟩, fun _ => Nat.succ_pos _⟩
              | succ n => simpa only [Nat.add_lt_add_iff_right, ← Nat.add_assoc, Nat.add_zero] using ih
          | up =>
              change n < tally earlier - 1 ↔ ∃ later, later <:+ earlier ∧ ups later + 1 + n < downs later
              rw [Nat.lt_sub_iff_add_lt]
              simpa only [Nat.add_assoc, Nat.add_comm 1] using ih

theorem tally_eq_zero_iff :
    tally events = 0 ↔ ∀ later, later <:+ events → downs later ≤ ups later := by
  constructor
  · intro none_left later last
    refine Nat.not_lt.mp fun more => ?_
    have left : 0 < tally events := lt_tally_iff.mpr ⟨later, last, more⟩
    rw [none_left] at left
    cases left
  · intro made_up
    refine Nat.eq_zero_of_not_pos fun left => ?_
    obtain ⟨later, last, more⟩ := lt_tally_iff.mp left
    exact absurd (made_up later last) (Nat.not_le.mpr more)

end Tally

/-- Work that counts no fingers, however it ends. -/
def Spares {α : Type} (x : Draw α) : Prop :=
  ∀ p, (leftBy (x p)).state.fingers = p.state.fingers

namespace Spares

variable {α β : Type}

theorem pure (a : α) : Spares (pure a) :=
  fun _ => rfl

theorem fail (why : Failure) : Spares (Work.fail why : Draw α) :=
  fun _ => rfl

theorem read {f : State → Draw β} (next : ∀ e, Spares (f e)) : Spares (Work.state >>= f) :=
  fun p => next p.state p

theorem add (deed : Deed Graphics.Request) : Spares (Work.add deed) :=
  fun _ => rfl

theorem update {f : State → State} (same : ∀ e, (f e).fingers = e.fingers) :
    Spares (Work.update f) :=
  fun p => same p.state

theorem bind {x : Draw α} {f : α → Draw β} (first : Spares x) (next : ∀ a, Spares (f a)) :
    Spares (x >>= f) := by
  intro p
  have before := first p
  change (leftBy (EStateM.bind x f p)).state.fingers = _
  rw [EStateM.bind]
  cases hx : x p with
  | ok a q =>
      rw [hx] at before
      exact (next a q).trans before
  | error stop q =>
      rw [hx] at before
      exact before

theorem branch {p : Prop} [Decidable p] {x y : Draw α} (holds : Spares x) (fails : Spares y) :
    Spares (if p then x else y) := by
  split
  · exact holds
  · exact fails

section Calls

variable (graphics : System)

theorem openDevice : Spares (Clear.openDevice graphics) := by
  refine read fun e => bind (add _) fun _ => bind (update fun _ => rfl) fun _ => ?_
  cases graphics.adapter e.usage.adapters with
  | error text => exact fail _
  | ok name =>
      refine bind (add _) fun _ => bind (update fun _ => rfl) fun _ => ?_
      cases graphics.device e.usage.devices with
      | error text => exact fail _
      | ok _ => exact add _

theorem chooseBase (assets : AssetReader) : Spares (Clear.chooseBase assets) := by
  unfold Clear.chooseBase
  cases assets.read colorAsset with
  | error why => exact bind (add _) fun _ => pure _
  | ok bytes =>
      dsimp only
      cases readColor bytes with
      | error why => exact fail _
      | ok base => exact pure _

theorem prepare (assets : AssetReader) (size : Extent) :
    Spares (Clear.prepare graphics assets size) := by
  refine branch (fail _) (bind (update fun _ => rfl) fun _ => read fun e => ?_)
  refine branch (add _) (bind (chooseBase assets) fun base => bind (update fun _ => rfl) fun _ => ?_)
  exact bind (openDevice graphics) fun _ => bind (update fun _ => rfl) fun _ => add _

theorem openSurface : Spares (Clear.openSurface graphics) := by
  refine read fun e => bind (add _) fun _ => bind (update fun _ => rfl) fun _ => ?_
  cases graphics.surface e.usage.surfaces with
  | error text => exact fail _
  | ok abilities =>
      cases h : abilities.format? with
      | none =>
          simp only [h]
          exact fail _
      | some format =>
          simp only [h]
          exact bind (add _) fun _ => pure _

theorem attach (window : Option WindowId) : Spares (Clear.attach graphics window) := by
  refine bind (update fun _ => rfl) fun _ => ?_
  cases window with
  | none => exact add _
  | some window =>
      refine read fun e => branch (bind (openSurface graphics) fun configuration => ?_) (fail _)
      exact bind (add _) fun _ => update fun _ => rfl

theorem clearNext (configuration : Graphics.Configuration) (color : Graphics.Color) :
    Spares (Clear.clearNext graphics configuration color) := by
  refine read fun e => bind (add _) fun _ => bind (update fun _ => rfl) fun _ => ?_
  cases (graphics.acquire e.usage.acquisitions).recovery? with
  | none => exact bind (add _) fun _ => bind (add _) fun _ => bind (add _) fun _ => pure _
  | some recovery =>
      cases recovery with
      | configuredAnew => exact bind (add _) fun _ => pure _
      | _ => exact pure _

theorem render : Spares (Clear.render graphics) := by
  refine read fun e => ?_
  have count : Spares Clear.countFrame := update fun _ => rfl
  cases e.device with
  | false => exact fail _
  | true =>
      cases e.surface with
      | none => exact fail _
      | some configuration =>
          refine bind (clearNext graphics configuration _) fun answer => ?_
          cases answer with
          | none => exact count
          | some recovery =>
              cases recovery with
              | giveUp => exact fail _
              | configuredAnew | passOver => exact bind (add _) fun _ => count

end Calls
end Spares

/-- The engine counts the fingers that its events leave. -/
def Tallied {graphics : System} {H : Type} (s : Session (engine graphics) H) : Prop :=
  State.fingers s.gate.engine = tally s.journal.inputs

variable {graphics : System} {H : Type}

theorem fingers_input (event : Event) (e : State) :
    (input event e).1.fingers = touched e.fingers event := by
  cases event with
  | touch action pointer position => rfl
  | key action code => cases action <;> rfl

/-- A call that brings no input. -/
theorem Tallied.close {s : Session (engine graphics) H} (tallied : Tallied s) {thread : Thread}
    {call : Call (engine graphics).Surface} {outcome : Outcome}
    {p : Performance State Graphics.Request}
    (silent : CallRecord.input? (E := engine graphics) ⟨thread, call, p.deeds, outcome⟩ = none)
    (same : p.state.fingers = State.fingers s.gate.engine) :
    Tallied (s.close thread call outcome p) := by
  refine (same.trans tallied).trans (congrArg tally ?_)
  change _ = Journal.inputs (_ :: _)
  rw [Journal.inputs_cons]
  exact (congrArg _ (congrArg Option.toList silent)).trans (List.append_nil _) |>.symm

theorem Tallied.perform (thread : Thread) {call : Call (engine graphics).Surface} {work : Draw Unit}
    (silent : ∀ deeds outcome,
      CallRecord.input? (E := engine graphics) ⟨thread, call, deeds, outcome⟩ = none)
    (spares : Spares work) :
    Preserves Tallied (Act.perform thread call work : Act (engine graphics) H _) := by
  intro s tallied
  obtain ⟨outcome, left⟩ := stateOf_perform thread call work s
  rw [left]
  exact tallied.close (silent _ _) (spares _)

theorem stable_tallied : Session.Stable (Tallied : Session (engine graphics) H → Prop) where
  write silent tallied := by
    refine tallied.trans (congrArg tally ?_)
    change _ = Journal.inputs (_ :: _)
    rw [Journal.inputs_cons, silent]
    exact (List.append_nil _).symm
  flags _ _ _ tallied := tallied
  worker _ tallied := tallied
  works thread call work works := by
    cases works with
    | prepare assets size => exact Tallied.perform thread (fun _ _ => rfl) (Spares.prepare _ assets size)
    | attach surface => exact Tallied.perform thread (fun _ _ => rfl) (Spares.attach _ surface)
    | render => exact Tallied.perform thread (fun _ _ => rfl) (Spares.render _)
  hears thread call work hears := by
    intro s tallied
    cases hears with
    | finish => exact tallied.close rfl rfl
    | input event =>
        have counted := (fingers_input event s.gate.engine).trans (congrArg (touched · event) tallied)
        refine counted.trans ?_
        change _ = tally (Journal.inputs (_ :: _))
        rw [Journal.inputs_cons]
        exact (tally_append _ [event]).symm

end Clear
end SurfaceGate
