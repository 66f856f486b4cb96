import Mathlib.Data.List.Forall2
import SurfaceGate.Proofs.Clear.Surface
import SurfaceGate.Proofs.Worker.Undisturbed

/-!
What the clear engine asks of the graphics system for a frame.

The acquisition decides: the frame is shown, it is passed over, or the surface is configured anew on the way. All
frames are counted but the one for which there is no memory, and that one fails. A surface that the engine holds is
configured as it was by the call that made it.
-/

namespace SurfaceGate.Graphics.Request

def isSubmit : Request → Bool
  | .submit => true
  | _ => false

def isPresent : Request → Bool
  | .present => true
  | _ => false

def configured? : Request → Option Configuration
  | .configure c => some c
  | _ => none

end SurfaceGate.Graphics.Request

namespace SurfaceGate.Clear

open Graphics (System Acquisition Configuration Color)

def spent : Failure :=
  .of "surface out of memory"

/-- The engine has a device, and a surface of this configuration. -/
structure State.Bound (e : State) (c : Configuration) : Prop where
  device : e.device = true
  surface : e.surface = some c

/-- The next acquisitions, before any of them is made. -/
def State.coming (system : System) (e : State) (n : Nat) : List Acquisition :=
  (List.range n).map fun i => system.acquire (e.usage.acquisitions + i)

def State.acquired (e : State) : State :=
  { e with usage := { e.usage with acquisitions := e.usage.acquisitions + 1 } }

def State.counted (e : State) : State :=
  { e with frame := e.frame + 1 }

/-- What the engine asks of the system for a frame whose acquisition comes out so. -/
def asked (c : Configuration) (color : Color) : Acquisition → List Graphics.Request
  | .ok => [.acquire .ok, .clear color, .submit, .present]
  | .lost => [.acquire .lost, .configure c]
  | .outdated => [.acquire .outdated, .configure c]
  | .timeout => [.acquire .timeout]
  | .other => [.acquire .other]
  | .outOfMemory => [.acquire .outOfMemory]

section Frame

variable {system : System} {e : State} {c : Configuration}

theorem State.coming_succ (system : System) (e : State) (n : Nat) :
    e.coming system (n + 1) = e.coming system n ++ [system.acquire (e.usage.acquisitions + n)] := by
  simp only [coming, List.range_succ, List.map_append, List.map_singleton]

theorem State.length_coming (system : System) (e : State) (n : Nat) : (e.coming system n).length = n := by
  rw [coming, List.length_map, List.length_range]

theorem State.mem_coming {n : Nat} {outcome : Acquisition} :
    outcome ∈ e.coming system n ↔ ∃ i < n, system.acquire (e.usage.acquisitions + i) = outcome := by
  simp only [coming, List.mem_map, List.mem_range]

theorem read_eq {α : Type} (k : State → Draw α) (p : Performance State Graphics.Request) :
    (Work.state >>= k) p = k p.state p :=
  rfl

theorem update_eq {α : Type} (change : State → State) (k : Unit → Draw α) (p : Performance State Graphics.Request) :
    (Work.update change >>= k) p = k () { p with state := change p.state } :=
  rfl

theorem clearNext_eq (system : System) (c : Configuration) (color : Color) (e : State) :
    clearNext system c color ⟨e, []⟩ =
      .ok (system.acquire e.usage.acquisitions).recovery?
        ⟨e.acquired, (asked c color (system.acquire e.usage.acquisitions)).map Deed.acted⟩ := by
  simp only [clearNext, read_eq]
  cases system.acquire e.usage.acquisitions <;> rfl

theorem render_eq (bound : e.Bound c) :
    ∃ deeds, deeds.filterMap Deed.effect? = asked c e.color (system.acquire e.usage.acquisitions) ∧
      render system ⟨e, []⟩ =
        if system.acquire e.usage.acquisitions = .outOfMemory then .error (.failed spent) ⟨e.acquired, deeds⟩
        else .ok () ⟨e.acquired.counted, deeds⟩ := by
  obtain ⟨device, surface, size, base, frame, fingers, spot, usage⟩ := e
  obtain ⟨rfl, rfl⟩ := bound
  unfold render
  change ∃ deeds, _ ∧ EStateM.bind (clearNext system c _) _ _ = _
  simp only [EStateM.bind, clearNext_eq]
  cases system.acquire usage.acquisitions <;> exact ⟨_, rfl, rfl⟩

/-- Input has no part in the frames. -/
structure State.Framed (e e' : State) : Prop where
  device : e'.device = e.device
  surface : e'.surface = e.surface
  frame : e'.frame = e.frame
  acquisitions : e'.usage.acquisitions = e.usage.acquisitions

theorem framed_input (event : Input.Event) (e : State) : e.Framed (input event e).1 := by
  cases event with
  | touch action pointer position => exact ⟨rfl, rfl, rfl, rfl⟩
  | key action code => cases action <;> exact ⟨rfl, rfl, rfl, rfl⟩

/-- An event asks nothing of the system. -/
theorem effects_input (event : Input.Event) (e : State) : (input event e).2.filterMap Deed.effect? = [] := by
  cases event with
  | touch action pointer position => rfl
  | key action code => cases action <;> rfl

end Frame

/-- How the requests for frames add up. -/
structure Accounts (c : Configuration) (outcomes : List Acquisition) (requests : List Graphics.Request) : Prop where
  submits : requests.countP Graphics.Request.isSubmit = outcomes.count .ok
  presents : requests.countP Graphics.Request.isPresent = outcomes.count .ok
  configures : requests.filterMap Graphics.Request.configured? =
    List.replicate (outcomes.count .lost + outcomes.count .outdated) c

/-- The requests for one frame after the other. -/
def Asks (c : Configuration) : List Acquisition → List (List Graphics.Request) → Prop :=
  List.Forall₂ fun outcome requests => ∃ color, requests = asked c color outcome

theorem accounts_asked (c : Configuration) (color : Color) (outcome : Acquisition) :
    Accounts c [outcome] (asked c color outcome) := by
  cases outcome <;> exact ⟨rfl, rfl, rfl⟩

theorem Accounts.append {c : Configuration} {earlier later : List Acquisition}
    {requests others : List Graphics.Request} (first : Accounts c earlier requests)
    (next : Accounts c later others) : Accounts c (earlier ++ later) (requests ++ others) where
  submits := by rw [List.countP_append, List.count_append, first.submits, next.submits]
  presents := by rw [List.countP_append, List.count_append, first.presents, next.presents]
  configures := by
    rw [List.filterMap_append, first.configures, next.configures, List.replicate_append_replicate,
      List.count_append, List.count_append]
    congr 1
    omega

theorem Asks.accounts {c : Configuration} {outcomes : List Acquisition} {frames : List (List Graphics.Request)}
    (asks : Asks c outcomes frames) : Accounts c outcomes frames.flatten := by
  induction asks with
  | nil => exact ⟨rfl, rfl, rfl⟩
  | @cons outcome _ outcomes frames first others ih =>
      obtain ⟨color, rfl⟩ := first
      exact (accounts_asked c color outcome).append ih

theorem Asks.concat {c : Configuration} {outcomes : List Acquisition} {frames : List (List Graphics.Request)}
    (asks : Asks c outcomes frames) (color : Color) (outcome : Acquisition) :
    Asks c (outcomes ++ [outcome]) (frames ++ [asked c color outcome]) := by
  induction asks with
  | nil => exact .cons ⟨color, rfl⟩ .nil
  | cons first _ ih => exact .cons first ih

section Making

variable {system : System} {H : Type} {s : Session (engine system) H} {e : State}

/-- The configuration that a call made a surface with. -/
def made? (record : CallRecord (engine system)) : Option Configuration :=
  match record.call with
  | .attach (some _) => (record.effects.filterMap Graphics.Request.configured?).getLast?
  | _ => none

/-- A surface is configured as it was when it was made, by the last call that made one. -/
def AsMade (s : Session (engine system) H) : Prop :=
  ∀ c, State.surface s.gate.engine = some c → s.journal.calls.findSome? made? = some c

/-- What holds wherever some work may end holds of what it leaves. -/
theorem Draws.left (R : State → Prop) {x : Draw Unit} {done : Unit → State → Prop}
    {failed : Failure → State → Prop} (draws : Draws x e done failed) (ends : ∀ e', done () e' → R e')
    (fails : ∀ why e', failed why e' → R e') : R (leftBy (x ⟨e, []⟩)).state := by
  have came := draws []
  revert came
  rcases x ⟨e, []⟩ with ⟨_, p⟩ | ⟨why | panic, p⟩ <;> intro came
  · exact ends p.state came
  · exact fails why p.state came
  · exact came.elim

theorem surface_prepare (assets : AssetReader) (size : Extent) :
    (leftBy (prepare system assets size ⟨e, []⟩)).state.surface = e.surface := by
  cases empty : size.isEmpty with
  | true =>
      unfold prepare
      rw [if_pos empty]
      rfl
  | false =>
      exact Draws.left (fun e' => e'.surface = e.surface) (Draws.prepare system assets empty)
        (fun _ ends => ends.2.1) (fun _ _ fails => fails.2.1)

theorem surface_render : (leftBy (render system ⟨e, []⟩)).state.surface = e.surface :=
  Draws.left (fun e' => e'.surface = e.surface) (Draws.render system) (fun _ ends => ends.surface)
    (fun _ _ fails => fails.1.surface)

/-- Whoever takes a surface has configured it in that call, and so. -/
theorem made_take (window : WindowId) (thread : Thread) (outcome : Outcome) {c : Configuration}
    (taken : (leftBy (attach system (some window) ⟨e, []⟩)).state.surface = some c) :
    @made? system ⟨thread, .attach (some window),
      (leftBy (attach system (some window) ⟨e, []⟩)).deeds, outcome⟩ = some c := by
  revert taken
  simp only [attach, openSurface, bind_assoc, update_eq, read_eq]
  cases e.device with
  | false => exact nofun
  | true =>
      simp only [if_true, read_eq]
      cases system.surface e.usage.surfaces with
      | error text => exact nofun
      | ok abilities =>
          dsimp only
          cases abilities.format? with
          | none => exact nofun
          | some format =>
              rintro ⟨⟩
              rfl

theorem AsMade.close (made : AsMade s) {thread : Thread} {call : Call (engine system).Surface} {outcome : Outcome}
    {p : Performance State Graphics.Request}
    (silent : @made? system ⟨thread, call, p.deeds, outcome⟩ = none)
    (kept : ∀ c, p.state.surface = some c → State.surface s.gate.engine = some c) :
    AsMade (s.close thread call outcome p) := by
  intro c surface
  change (List.findSome? made? (_ :: s.journal.calls)) = _
  rw [List.findSome?_cons_of_isNone (by rw [silent]; rfl)]
  exact made c (kept c surface)

theorem stable_asMade : Session.Stable (AsMade : Session (engine system) H → Prop) where
  write {s entry} silent made := by
    have same : (s.write entry).journal.calls = s.journal.calls := List.filterMap_cons_none silent
    intro c surface
    rw [same]
    exact made c surface
  flags _ _ _ made := made
  worker _ made := made
  works thread call work works := by
    intro s made
    obtain ⟨outcome, left⟩ := stateOf_perform thread call work s
    rw [left]
    cases works with
    | prepare assets size => exact made.close rfl fun c kept => (surface_prepare assets size).symm.trans kept
    | render => exact made.close rfl fun c kept => surface_render.symm.trans kept
    | attach window =>
        cases window with
        | none => exact made.close rfl nofun
        | some window =>
            intro c taken
            have made := made_take window thread outcome taken
            exact (List.findSome?_cons_of_isSome (Option.isSome_of_eq_some made)).trans made
  hears thread call work hears := by
    intro s made
    cases hears with
    | input event => exact made.close rfl fun c kept => (framed_input event _).surface.symm.trans kept
    | finish => exact made.close rfl nofun

end Making

end SurfaceGate.Clear
