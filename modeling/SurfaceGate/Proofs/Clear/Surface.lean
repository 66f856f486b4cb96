import SurfaceGate.Clear.Engine
import SurfaceGate.Proofs.Invariant
import SurfaceGate.Proofs.Outline.Closing
import SurfaceGate.Proofs.Outline.Records

/-!
The device, the surface and the size of the clear engine, as its calls tell them.

The engine has a device exactly while the gate counts it as prepared, and a surface only while the gate is
bound. It has the size that it was prepared for last, and the surface that it was given last, if it took
it. So a surface never finds it without a device; that a frame finds it without a surface takes a gate that
lets a frame through too early.
-/

namespace SurfaceGate.Clear

open Graphics (System)

def uninitialized : Failure :=
  .of "engine not initialized"

def unbound : Failure :=
  .of "render without a bound surface"

/-- A failure that is none of these two. -/
structure Sane (why : Failure) : Prop where
  initialized : why ≠ uninitialized
  bound : why ≠ unbound

theorem sane_within (why : Failure) (context : String) : Sane (why.within context) where
  initialized same := nomatch congrArg Failure.contexts same
  bound same := nomatch congrArg Failure.contexts same

/-- Neither device nor surface nor size tells `e'` from `e`. -/
structure State.Same (e e' : State) : Prop where
  device : e'.device = e.device
  surface : e'.surface = e.surface
  size : e'.size = e.size

theorem State.Same.refl (e : State) : e.Same e :=
  ⟨rfl, rfl, rfl⟩

def Comes {α : Type} (done : α → State → Prop) (failed : Failure → State → Prop) :
    EStateM.Result Stop (Performance State Graphics.Request) α → Prop
  | .ok a p => done a p.state
  | .error (.failed why) p => failed why p.state
  | .error (.panicked _) _ => False

/-- Work that begins with `e` does not panic. It ends in `done`, or in `failed` if it fails. -/
def Draws {α : Type} (x : Draw α) (e : State) (done : α → State → Prop)
    (failed : Failure → State → Prop) : Prop :=
  ∀ deeds, Comes done failed (x ⟨e, deeds⟩)

namespace Draws

variable {α β : Type} {e : State} {done : α → State → Prop} {failed : Failure → State → Prop}

theorem pure {a : α} (holds : done a e) : Draws (pure a) e done failed :=
  fun _ => holds

theorem fail {why : Failure} (holds : failed why e) : Draws (Work.fail why : Draw α) e done failed :=
  fun _ => holds

theorem read {f : State → Draw α} (next : Draws (f e) e done failed) :
    Draws (Work.state >>= f) e done failed :=
  fun deeds => next deeds

theorem bind {x : Draw α} {f : α → Draw β} {mid : α → State → Prop} {done : β → State → Prop}
    (first : Draws x e mid failed) (next : ∀ a e', mid a e' → Draws (f a) e' done failed) :
    Draws (x >>= f) e done failed := by
  intro deeds
  have before := first deeds
  change Comes done failed (EStateM.bind x f ⟨e, deeds⟩)
  rw [EStateM.bind]
  rcases hx : x ⟨e, deeds⟩ with ⟨a, e', later⟩ | ⟨why | panic, p⟩
  · rw [hx] at before
    exact next a e' before later
  · rw [hx] at before
    exact before
  · rw [hx] at before
    exact before.elim

/-- A deed changes nothing of the state. -/
theorem add {deed : Deed Graphics.Request} {f : Unit → Draw α} (next : Draws (f ()) e done failed) :
    Draws (Work.add deed >>= f) e done failed :=
  fun deeds => next (deeds ++ [deed])

theorem update {change : State → State} {f : Unit → Draw α}
    (next : Draws (f ()) (change e) done failed) : Draws (Work.update change >>= f) e done failed :=
  fun deeds => next deeds

theorem addLast {deed : Deed Graphics.Request} {done : Unit → State → Prop} (holds : done () e) :
    Draws (Work.add deed) e done failed :=
  fun _ => holds

theorem updateLast {change : State → State} {done : Unit → State → Prop} (holds : done () (change e)) :
    Draws (Work.update change) e done failed :=
  fun _ => holds

theorem imp {x : Draw α} {done' : α → State → Prop} {failed' : Failure → State → Prop}
    (draws : Draws x e done failed) (ends : ∀ a e', done a e' → done' a e')
    (fails : ∀ why e', failed why e' → failed' why e') : Draws x e done' failed' := by
  intro deeds
  have left := draws deeds
  revert left
  rcases x ⟨e, deeds⟩ with ⟨a, p⟩ | ⟨why | panic, p⟩ <;> intro left
  · exact ends a _ left
  · exact fails why _ left
  · exact left

section Calls

variable (system : System)

theorem openDevice :
    Draws (Clear.openDevice system) e (fun _ => e.Same) fun why e' => e.Same e' ∧ Sane why := by
  refine read (add (update ?_))
  cases system.adapter e.usage.adapters with
  | error text => exact fail ⟨⟨rfl, rfl, rfl⟩, sane_within _ _⟩
  | ok name =>
      refine add (update ?_)
      cases system.device e.usage.devices with
      | error text => exact fail ⟨⟨rfl, rfl, rfl⟩, sane_within _ _⟩
      | ok _ => exact addLast ⟨rfl, rfl, rfl⟩

theorem chooseBase (assets : AssetReader) :
    Draws (Clear.chooseBase assets) e (fun _ e' => e' = e) fun why e' => e' = e ∧ Sane why := by
  unfold Clear.chooseBase
  cases assets.read colorAsset with
  | error why => exact add (pure rfl)
  | ok bytes =>
      dsimp only
      cases readColor bytes with
      | error why => exact fail ⟨rfl, sane_within _ _⟩
      | ok base => exact pure rfl

/-- The engine is prepared for any size with an area, unless its assets or its device fail it. -/
theorem prepare (assets : AssetReader) {size : Extent} (fit : size.isEmpty = false) :
    Draws (Clear.prepare system assets size) e
      (fun _ e' => e'.device = true ∧ e'.surface = e.surface ∧ e'.size = size)
      fun why e' => e'.device = e.device ∧ e'.surface = e.surface ∧ Sane why := by
  unfold Clear.prepare
  rw [if_neg (by simp [fit])]
  refine update (read ?_)
  by_cases device : e.device = true
  · rw [if_pos device]
    exact addLast ⟨device, rfl, rfl⟩
  · rw [if_neg device]
    refine bind ((chooseBase assets).imp (fun _ _ => id) ?_) ?_
    · rintro why _ ⟨rfl, sane⟩
      exact ⟨rfl, rfl, sane⟩
    · rintro base _ rfl
      refine update (bind ((openDevice system).imp (fun _ _ => id) ?_) ?_)
      · exact fun why e' ⟨same, sane⟩ => ⟨same.device, same.surface, sane⟩
      · exact fun _ e' same => update (addLast ⟨rfl, same.surface, same.size⟩)

theorem openSurface : Draws (Clear.openSurface system) e (fun _ => e.Same)
    fun why e' => e.Same e' ∧ Sane why := by
  refine read (add (update ?_))
  cases system.surface e.usage.surfaces with
  | error text => exact fail ⟨⟨rfl, rfl, rfl⟩, sane_within _ _⟩
  | ok abilities =>
      cases found : abilities.format? with
      | none =>
          simp only [found]
          exact fail ⟨⟨rfl, rfl, rfl⟩, by decide, by decide⟩
      | some format =>
          simp only [found]
          exact add (pure ⟨rfl, rfl, rfl⟩)

theorem giveUp : Draws (Clear.attach system none) e
    (fun _ e' => e'.surface = none ∧ e'.device = e.device ∧ e'.size = e.size) fun _ _ => False :=
  update (addLast ⟨rfl, rfl, rfl⟩)

/-- With a device the engine takes a surface, or it ends without one. -/
theorem take (window : WindowId) (device : e.device = true) :
    Draws (Clear.attach system (some window)) e
      (fun _ e' => e'.surface.isSome = true ∧ e'.device = e.device ∧ e'.size = e.size)
      fun why e' => e'.surface = none ∧ e'.device = e.device ∧ e'.size = e.size ∧ Sane why := by
  refine update (read ?_)
  rw [if_pos device]
  refine bind ((openSurface system).imp (fun _ _ => id) ?_) ?_
  · exact fun why e' ⟨same, sane⟩ => ⟨same.surface, same.device, same.size, sane⟩
  · exact fun configuration e' same => add (updateLast ⟨rfl, same.device, same.size⟩)

theorem clearNext (configuration : Graphics.Configuration) (color : Graphics.Color) :
    Draws (Clear.clearNext system configuration color) e (fun _ => e.Same) fun _ _ => False := by
  refine read (add (update ?_))
  cases (system.acquire e.usage.acquisitions).recovery? with
  | none => exact add (add (add (pure ⟨rfl, rfl, rfl⟩)))
  | some recovery =>
      cases recovery with
      | configuredAnew => exact add (pure ⟨rfl, rfl, rfl⟩)
      | giveUp | passOver => exact pure ⟨rfl, rfl, rfl⟩

/-- A frame misses nothing when there is a device and a surface. -/
theorem render : Draws (Clear.render system) e (fun _ => e.Same) fun why e' => e.Same e' ∧
    why ≠ uninitialized ∧ (e.device = true → e.surface.isSome = true → why ≠ unbound) := by
  refine read ?_
  cases device : e.device with
  | false => exact fail ⟨.refl e, by decide, nofun⟩
  | true =>
      cases surface : e.surface with
      | none => exact fail ⟨.refl e, by decide, nofun⟩
      | some configuration =>
          refine bind ((clearNext system configuration _).imp (fun _ _ => id) fun _ _ => False.elim) ?_
          intro answer e' same
          have counted : Draws countFrame e' (fun _ => e.Same) fun why e' => e.Same e' ∧
              why ≠ uninitialized ∧ (true = true → (some configuration).isSome = true → why ≠ unbound) :=
            updateLast ⟨same.device, same.surface, same.size⟩
          cases answer with
          | none => exact counted
          | some recovery =>
              cases recovery with
              | giveUp => exact fail ⟨same, by decide, fun _ _ => by decide⟩
              | configuredAnew | passOver => exact add counted

end Calls
end Draws

variable {system : System} {H : Type} {e : State}

/-- What an engine does at a call, told by the outcome. -/
def Told (done : State → Prop) (failed : Failure → State → Prop) : Outcome → State → Prop
  | .ok, e => done e
  | .failed why, e => failed why e
  | .panicked _, _ => False

/-- The engine answers as its work draws. -/
theorem told_of_draws {call : Call (engine system).Surface} {done : State → Prop}
    {failed : Failure → State → Prop}
    (draws : ∀ work, (engine system).Works call work → Draws work e (fun _ => done) failed)
    (unheard : ∀ hearing, ¬(engine system).Hears call hearing) {outcome : Outcome}
    {p : Performance (engine system).State (engine system).Effect}
    (answers : (engine system).Answers e call outcome p) : Told done failed outcome p.state := by
  have came {work : Draw Unit} (works : (engine system).Works call work) :
      ∀ r, work ⟨e, []⟩ = r → Comes (fun _ => done) failed r :=
    fun r same => same ▸ draws work works []
  cases answers with
  | done works answer | failed works answer | panicked works answer => exact came works _ answer
  | heard hears => exact absurd hears (unheard _)

/-- What the engine holds, told by the gate and by its calls, the newest first. -/
structure Faithful (g : Gate (engine system)) (calls : List (CallRecord (engine system))) : Prop where
  device_iff : State.device g.engine = true ↔ g.phase = .prepared
  bound : (State.surface g.engine).isSome = true → g.bound = true ∧ g.phase = .prepared
  size : ∀ size, latest Call.isPrepare calls = some (.prepare size, .ok) → State.size g.engine = size
  taken : ∀ window earlier, lifecycleOf calls = (.attach (some window), .ok) :: earlier →
    (State.surface g.engine).isSome = true
  fits : ∀ record ∈ calls, ∀ size, record.call = .prepare size → size.isEmpty = false
  returned : ∀ record ∈ calls, record.outcome.Returned
  initialized : ∀ record ∈ calls, record.outcome ≠ .failed uninitialized
  /-- Only a frame finds the engine without a surface, and only if it was not given one last. -/
  drawn : ∀ record older, record :: older <:+ calls → record.outcome = .failed unbound →
    record.call = .render ∧ ∀ window earlier, lifecycleOf older ≠ (.attach (some window), .ok) :: earlier

theorem faithful_new : Faithful (Gate.new State.new : Gate (engine system)) [] where
  device_iff := ⟨nofun, nofun⟩
  bound := nofun
  size := nofun
  taken := nofun
  fits := nofun
  returned := nofun
  initialized := nofun
  drawn _ _ suffix := nomatch List.suffix_nil.mp suffix

/-- What a call must leave to keep an engine faithful. -/
theorem Faithful.called {g g' : Gate (engine system)} {calls : List (CallRecord (engine system))}
    (faithful : Faithful g calls) {record : CallRecord (engine system)}
    (device_iff : State.device g'.engine = true ↔ g'.phase = .prepared)
    (bound : (State.surface g'.engine).isSome = true → g'.bound = true ∧ g'.phase = .prepared)
    (size : ∀ size, record.call = .prepare size → record.outcome = .ok → State.size g'.engine = size)
    (sized : record.call.isPrepare = false → State.size g'.engine = State.size g.engine)
    (taken : ∀ window, record.call = .attach (some window) → record.outcome = .ok →
      (State.surface g'.engine).isSome = true)
    (kept : record.call.isLifecycle = false → State.surface g'.engine = State.surface g.engine)
    (fits : ∀ size, record.call = .prepare size → size.isEmpty = false)
    (returned : record.outcome.Returned) (initialized : record.outcome ≠ .failed uninitialized)
    (drawn : record.outcome = .failed unbound → record.call = .render ∧
      ∀ window earlier, lifecycleOf calls ≠ (.attach (some window), .ok) :: earlier) :
    Faithful g' (record :: calls) where
  device_iff := device_iff
  bound := bound
  size fitted last := by
    simp only [latest, List.find?_cons] at last
    cases prepares : record.call.isPrepare with
    | true =>
        rw [prepares] at last
        obtain ⟨call, outcome⟩ := Prod.mk.inj (Option.some.inj last)
        exact size fitted call outcome
    | false =>
        rw [prepares] at last
        exact (sized prepares).trans (faithful.size fitted last)
  taken window earlier last := by
    simp only [lifecycleOf, List.filterMap_cons] at last
    cases begins : record.call.isLifecycle with
    | true =>
        simp only [begins, if_true] at last
        obtain ⟨call, outcome⟩ := Prod.mk.inj (List.cons.inj last).1
        exact taken window call outcome
    | false =>
        simp only [begins] at last
        rw [kept begins]
        exact faithful.taken window earlier last
  fits := List.forall_mem_cons.mpr ⟨fits, faithful.fits⟩
  returned := List.forall_mem_cons.mpr ⟨returned, faithful.returned⟩
  initialized := List.forall_mem_cons.mpr ⟨initialized, faithful.initialized⟩
  drawn made older suffix failed := by
    rcases List.suffix_cons_iff.mp suffix with same | before
    · obtain ⟨rfl, rfl⟩ := List.cons.inj same
      exact drawn failed
    · exact faithful.drawn made older before failed

theorem same_input (event : Input.Event) (e : State) : e.Same (input event e).1 := by
  cases event with
  | touch action pointer position => exact ⟨rfl, rfl, rfl⟩
  | key action code => cases action <;> exact .refl e

/-- A call that leaves device, surface and size as they are, and that is neither the first nor the last. -/
theorem Faithful.same {g : Gate (engine system)} {calls : List (CallRecord (engine system))}
    (faithful : Faithful g calls) {record : CallRecord (engine system)} {e' : State}
    (same : State.Same g.engine e') (served : record.call.isServed = true)
    (returned : record.outcome.Returned) (initialized : record.outcome ≠ .failed uninitialized)
    (drawn : record.outcome = .failed unbound → record.call = .render ∧
      ∀ window earlier, lifecycleOf calls ≠ (.attach (some window), .ok) :: earlier) :
    Faithful { g with engine := e' } (record :: calls) := by
  refine faithful.called ?_ ?_ ?_ (fun _ => same.size) ?_ (fun _ => same.surface) ?_ returned initialized
    drawn
  · rw [same.device]
    exact faithful.device_iff
  · rw [same.surface]
    exact faithful.bound
  · intro size prepares
    rw [prepares] at served
    cases served
  · intro window takes
    rw [takes] at served
    cases served
  · intro size prepares
    rw [prepares] at served
    cases served

variable {s : Session (engine system) H} {thread : Thread} {outcome : Outcome}
  {p : Performance (engine system).State (engine system).Effect}

theorem Faithful.prepared (faithful : Faithful s.gate s.journal.calls) {size : Extent}
    (fit : size.isEmpty = false) (answers : (engine system).Answers s.gate.engine (.prepare size) outcome p) :
    Faithful (s.answered thread (.prepare size) outcome p).gate
      (⟨thread, .prepare size, p.deeds, outcome⟩ :: s.journal.calls) := by
  have told := told_of_draws
    (fun _ works => by cases works with | prepare assets => exact Draws.prepare system assets fit)
    (fun _ hears => by cases hears) answers
  have fits : ∀ other, (Call.prepare size : Call (engine system).Surface) = .prepare other →
      other.isEmpty = false := by
    rintro _ ⟨⟩
    exact fit
  cases outcome with
  | ok =>
      obtain ⟨device, surface, fitted⟩ := told
      refine faithful.called (iff_of_true device rfl) (fun held => ?_) ?_ nofun nofun nofun fits nofun nofun
        nofun
      · exact ⟨(faithful.bound (surface ▸ held)).1, rfl⟩
      · rintro _ ⟨⟩ -
        exact fitted
  | failed why =>
      obtain ⟨device, surface, sane⟩ := told
      refine faithful.called ?_ ?_ nofun nofun nofun nofun fits nofun ?_ ?_
      · exact device ▸ faithful.device_iff
      · exact surface ▸ faithful.bound
      · rintro ⟨⟩
        exact sane.initialized rfl
      · rintro ⟨⟩
        exact absurd rfl sane.bound
  | panicked panic => exact told.elim

theorem Faithful.attached (faithful : Faithful s.gate s.journal.calls) (window : Option WindowId)
    (prepared : s.gate.phase = .prepared)
    (answers : (engine system).Answers s.gate.engine (.attach window) outcome p) :
    Faithful (s.answered thread (.attach window) outcome p).gate
      (⟨thread, .attach window, p.deeds, outcome⟩ :: s.journal.calls) := by
  have opened := faithful.device_iff.mpr prepared
  cases window with
  | none =>
      have told := told_of_draws (fun _ works => by cases works with | attach => exact Draws.giveUp system)
        (fun _ hears => by cases hears) answers
      cases outcome with
      | ok =>
          obtain ⟨surface, device, size⟩ := told
          refine faithful.called (iff_of_true (device.trans opened) prepared) (fun held => ?_) nofun
            (fun _ => size) nofun nofun nofun nofun nofun nofun
          cases (congrArg Option.isSome surface).symm.trans held
      | failed _ | panicked _ => exact told.elim
  | some window =>
      have told := told_of_draws
        (fun _ works => by cases works with | attach => exact Draws.take system window opened)
        (fun _ hears => by cases hears) answers
      cases outcome with
      | ok =>
          obtain ⟨surface, device, size⟩ := told
          exact faithful.called (iff_of_true (device.trans opened) prepared) (fun _ => ⟨rfl, prepared⟩) nofun
            (fun _ => size) (fun _ _ _ => surface) nofun nofun nofun nofun nofun
      | failed why =>
          obtain ⟨surface, device, size, sane⟩ := told
          refine faithful.called (iff_of_true (device.trans opened) prepared) (fun held => ?_) nofun
            (fun _ => size) nofun nofun nofun nofun ?_ ?_
          · cases (congrArg Option.isSome surface).symm.trans held
          · rintro ⟨⟩
            exact sane.initialized rfl
          · rintro ⟨⟩
            exact absurd rfl sane.bound
      | panicked panic => exact told.elim

theorem Faithful.rendered (faithful : Faithful s.gate s.journal.calls)
    (answers : (engine system).Answers s.gate.engine .render outcome p) :
    Faithful (s.answered thread .render outcome p).gate
      (⟨thread, .render, p.deeds, outcome⟩ :: s.journal.calls) := by
  have told := told_of_draws (fun _ works => by cases works with | render => exact Draws.render system)
    (fun _ hears => by cases hears) answers
  cases outcome with
  | ok => exact faithful.same told rfl nofun nofun nofun
  | failed why =>
      obtain ⟨same, initialized, bound⟩ := told
      refine faithful.same same rfl nofun ?_ ?_
      · rintro ⟨⟩
        exact initialized rfl
      · rintro ⟨⟩
        refine ⟨rfl, fun window earlier last => ?_⟩
        have held := faithful.taken window earlier last
        exact bound (faithful.device_iff.mpr (faithful.bound held).2) held rfl
  | panicked panic => exact told.elim

theorem Faithful.write (faithful : Faithful s.gate s.journal.calls) {entry : Entry (engine system) H}
    (uncalled : entry.call? = none) : Faithful s.gate (s.write entry).journal.calls := by
  have same : (s.write entry).journal.calls = s.journal.calls := List.filterMap_cons_none uncalled
  rwa [same]

/-- The engine stays faithful, as long as it is prepared for sizes with an area only. -/
theorem upheld_faithful : Session.Upheld (fun size => size.isEmpty = false)
    fun s : Session (engine system) H => Faithful s.gate s.journal.calls where
  write plain faithful := faithful.write plain.uncalled
  worker _ faithful := faithful
  ready _ faithful := { faithful with }
  unbind unprepared faithful :=
    { faithful with bound := fun held => absurd (faithful.bound held).2 unprepared }
  called {s} thread call outcome p fit admitted answers faithful := by
    cases call with
    | prepare size => exact faithful.prepared fit answers
    | attach window => exact faithful.attached window admitted.2 answers
    | render => exact faithful.rendered answers
    | input event =>
        cases answers with
        | heard hears => cases hears with
          | input => exact faithful.same (same_input event _) rfl nofun nofun nofun
        | done works _ | failed works _ | panicked works _ => cases works
    | finish =>
        cases answers with
        | heard hears => cases hears with
          | finish =>
              exact faithful.called (iff_of_false nofun nofun) nofun nofun (fun _ => rfl) nofun nofun nofun
                nofun nofun nofun
        | done works _ | failed works _ | panicked works _ => cases works

end SurfaceGate.Clear
