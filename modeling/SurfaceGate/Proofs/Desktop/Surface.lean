import SurfaceGate.Proofs.Delivery
import SurfaceGate.Proofs.Desktop.Run
import SurfaceGate.Proofs.Desktop.Touches
import SurfaceGate.Proofs.Outline.Shift

/-!
What an event of the window system does to the surface, the pointers and the input.

Most events move the surface at most, and meanwhile the engine hears nothing. Those of the devices leave the
surface alone: contacts and pointers take a report as they do without a host, and its events are offered to
the engine. When the screen is lost, there is first a report that lifts every contact, and then the surface
goes. All this holds behind a panic as well.
-/

namespace SurfaceGate.Desktop

open Input (Event Pointers)

variable {graphics : Graphics.System} {α β : Type} {h h' : Host graphics}

namespace Host

def touches (h : Host graphics) : Touches :=
  ⟨h.contacts, h.controller.pointers⟩

/-- The events that reached the engine, oldest first. -/
def inputs (h : Host graphics) : List Event :=
  h.controller.inputs

theorem inputs_outline (h : Host graphics) : h.controller.outline.history.inputs = h.inputs :=
  Journal.inputs_history _

/-- The surface may have moved. No event reached the engine, and the pointers are forgotten behind a closed
gate at most. -/
structure Shifted (h h' : Host graphics) : Prop where
  sound : h'.controller.Sound
  outline : h.controller.outline.Shifted h'.controller.outline
  contacts : h'.contacts = h.contacts

theorem Hushed.moved (hushed : Hushed h h') (sound : h.controller.Sound) : Shifted h h' where
  sound := hushed.sound sound
  outline := hushed.outline ▸ .of_aside rfl
  contacts := hushed.contacts

theorem Shifted.inputs (shifted : Shifted h h') : h'.inputs = h.inputs := by
  rw [← inputs_outline, shifted.outline.inputs, inputs_outline]

theorem Hushed.shifted {m : Host graphics} (before : Hushed h m) (shifted : Shifted m h') :
    Shifted h h' where
  sound := shifted.sound
  outline := before.outline ▸ shifted.outline
  contacts := shifted.contacts.trans before.contacts

theorem Shifted.hushed {m : Host graphics} (shifted : Shifted h m) (behind : Hushed m h') :
    Shifted h h' where
  sound := behind.sound shifted.sound
  outline := behind.outline.symm ▸ shifted.outline
  contacts := behind.contacts.trans shifted.contacts

/-- Events were offered to the engine, and nothing else happened to the surface. -/
structure Offered (h : Host graphics) (touches : Touches) (events : List Event) (h' : Host graphics) :
    Prop where
  sound : h'.controller.Sound
  touches : h'.touches = touches
  opened : h'.controller.isOpen = h.controller.isOpen
  ended : h'.controller.ended = h.controller.ended
  inputs : h'.inputs = if h.controller.isOpen then h.inputs ++ events else h.inputs

end Host

namespace Handle

open Host

theorem stateOf_onController (x : Control (Clear.engine graphics) WindowCall α) (h : Host graphics) :
    stateOf (onController x h) = { h with controller := stateOf (x h.controller) } := by
  simp only [onController]
  cases x h.controller <;> rfl

/-- A step that moves the surface at most, whether it returns or panics. -/
def Shifts (x : Handle graphics α) : Prop :=
  ∀ h, h.controller.Sound → Shifted h (stateOf (x h))

namespace Shifts

theorem of_hushes {x : Handle graphics α} (hushes : Hushes x) : Shifts x :=
  fun h => (hushes h).moved

theorem after {x : Handle graphics α} {f : α → Handle graphics β} (first : Hushes x)
    (next : ∀ a, Shifts (f a)) : Shifts (x >>= f) := by
  intro h sound
  have before := first h
  cases hx : x h with
  | ok a m =>
      rw [hx] at before
      rw [bind_of_ok hx]
      exact before.shifted (next a m (before.sound sound))
  | error panic m =>
      rw [hx] at before
      rw [bind_of_error hx]
      exact before.moved sound

theorem before {x : Handle graphics α} {f : α → Handle graphics β} (first : Shifts x)
    (next : ∀ a, Hushes (f a)) : Shifts (x >>= f) := by
  intro h sound
  refine stateOf_bind_of (R := fun s t => Shifted h s → Shifted h t) (fun first second => second ∘ first)
    (fun _ => first h sound) (fun a t _ shifted => shifted.hushed (next a t)) ?_
  exact (Hushed.refl h).moved sound

theorem read {f : Host graphics → Handle graphics β} (next : ∀ h, Shifts (f h)) :
    Shifts (get >>= f) :=
  fun h sound => next h h sound

theorem branch {p : Prop} [Decidable p] {x y : Handle graphics α} (holds : Shifts x)
    (fails : Shifts y) : Shifts (if p then x else y) := by
  split
  · exact holds
  · exact fails

/-- A call of the controller that moves the surface at most. -/
theorem call (k : Conditions) (call : HostCall Clear.WindowId WindowCall)
    {x : Control (Clear.engine graphics) WindowCall α} {answer : α → Answer}
    (performs : call.perform k = (do return answer (← x)))
    (shifts : ∀ plan o, Outline.Shifted o (stateOf (call.draft plan k.startable o))) :
    Shifts (onController x) := by
  intro h sound
  obtain ⟨reached, plan, drafted⟩ := sound.reached k call performs
  rw [stateOf_onController]
  refine ⟨reached, ?_, rfl⟩
  change h.controller.outline.Shifted (stateOf (x h.controller)).outline
  rw [drafted]
  exact shifts plan _

theorem release (k : Conditions) :
    Shifts (onController (Controller.release k) : Handle graphics Unit) := by
  refine call k .vanished rfl fun plan o => ?_
  have left := stateOf_return (Draft.release plan) (fun _ => Answer.done) o
  exact left ▸ (Outline.closes_lowered.release plan o).toShifted

theorem endActivity (k : Conditions) :
    Shifts (onController (Controller.closeActivity k) : Handle graphics _) := by
  refine call k .ended rfl fun plan o => ?_
  have left := stateOf_return (Draft.closeActivity plan) Answer.result o
  exact left ▸ (Outline.closes_lowered.closeActivity plan o).toShifted

theorem bindSurface (k : Conditions) (size : Extent) (window : Clear.WindowId) (assets : AssetReader) :
    Shifts (onController (Controller.adopt k size window assets) : Handle graphics _) := by
  refine call k (.sized size window assets) rfl fun plan o => ?_
  have left := stateOf_return (Draft.adopt plan k.startable size window) Answer.result o
  exact left ▸ Outline.shifted_adopt plan k.startable size window o

theorem adopt (k : Conditions) (size : Extent) :
    Shifts (Handle.adopt k size : Handle graphics Unit) := by
  refine read fun h => ?_
  cases h.window with
  | none => exact of_hushes (.pure _)
  | some window =>
      refine branch (after (asks_hushed.log _ _) fun _ => release k) (branch (of_hushes (asks_hushed.log _ _)) ?_)
      refine before (bindSurface k size window h.assets) fun answer => ?_
      cases answer with
      | error error => exact asks_hushed.log _ _
      | ok _ => exact .pure _

theorem closeActivity (k : Conditions) :
    Shifts (Handle.closeActivity k : Handle graphics Unit) := by
  refine before (endActivity k) fun answer => ?_
  cases answer with
  | error error => exact asks_hushed.log _ _
  | ok _ => exact .pure _

theorem gain (k : Conditions) : Shifts (Handle.gain k : Handle graphics Unit) := by
  refine after asks_hushed.needWindow fun answer => ?_
  cases answer with
  | error why => exact of_hushes (.bind (asks_hushed.log _ _) fun _ => asks_hushed.ask _)
  | ok window =>
      refine after asks_hushed.openActivity fun _ => after (asks_hushed.noted rfl rfl) fun _ => ?_
      exact read fun _ => adopt k _

theorem close (k : Conditions) : Shifts (Handle.event k .close : Handle graphics Unit) :=
  before (closeActivity k) fun _ => asks_hushed.closeWindow

theorem leave (k : Conditions) : Shifts (Handle.event k .leaving : Handle graphics Unit) :=
  read fun _ => branch (closeActivity k) (of_hushes (.pure _))

theorem focus (k : Conditions) (focused : Bool) :
    Shifts (Handle.event k (.focus focused) : Handle graphics Unit) :=
  read fun _ => branch (of_hushes (asks_hushed.focus focused)) (of_hushes (.pure _))

end Shifts

section Offers

variable {k : Conditions}

theorem offers (sound : h.controller.Sound) (call : HostCall Clear.WindowId WindowCall)
    {x : Control (Clear.engine graphics) WindowCall α} {answer : α → Answer}
    (performs : call.perform k = (do return answer (← x))) {pointers : Pointers} {events : List Event}
    (drafted : ∀ plan, stateOf (call.draft plan k.startable h.controller.outline) =
      events.foldl Outline.told { h.controller.outline with pointers }) :
    Offered h ⟨h.contacts, pointers⟩ events (stateOf (onController x h)) := by
  obtain ⟨reached, plan, same⟩ := sound.reached k call performs
  have left := same.trans (drafted plan)
  have aside := (congrArg Outline.aside left).trans (Outline.aside_told events _)
  have ready := (congrArg Outline.ready left).trans (Outline.ready_told events _)
  have passed := congrArg (fun a => a.intake.passed) aside
  rw [stateOf_onController]
  refine ⟨reached, ?_, ready, congrArg Outline.Aside.ended aside, ?_⟩
  · exact congrArg (Touches.mk h.contacts) (congrArg (fun a => a.intake.pointers) aside)
  · rw [← inputs_outline, ← inputs_outline]
    exact passed

theorem offers_motion (sound : h.controller.Sound) (batch : Input.Motion) :
    Offered h ⟨h.contacts, (h.controller.pointers.absorb batch).pointers⟩
      (h.controller.pointers.absorb batch).events
      (stateOf (onController (Controller.motion k batch) h)) := by
  refine offers sound (.motion batch) rfl fun plan => ?_
  have told := congrArg stateOf (Outline.motion_eq batch h.controller.outline)
  exact (stateOf_return (Draft.motion batch) Answer.count _).trans told

theorem offers_key (sound : h.controller.Sound) (pressed : Input.Key) :
    Offered h h.touches pressed.event?.toList (stateOf (onController (Controller.key k pressed) h)) := by
  refine offers sound (.key pressed) rfl fun plan => ?_
  have told := congrArg stateOf (Outline.key_eq pressed h.controller.outline)
  exact (stateOf_return (Draft.key pressed) Answer.reached _).trans told

theorem follow_eq (contact : Contact) (stroke : Stroke) (position : Input.Point) (h : Host graphics) :
    follow k contact stroke position h =
      handOn k (h.contacts.strike contact stroke position).1
        { h with contacts := (h.contacts.strike contact stroke position).2 } := by
  cases stroke <;> rfl

theorem offers_follow (sound : h.controller.Sound) (touch : Touch) :
    Offered h (h.touches.strike touch).2 (h.touches.strike touch).1
      (stateOf (follow k touch.contact touch.stroke touch.position h)) := by
  rw [follow_eq]
  simp only [Touches.strike, Host.touches]
  generalize h.contacts.strike touch.contact touch.stroke touch.position = struck
  obtain ⟨batch, contacts⟩ := struck
  cases batch with
  | none =>
      refine ⟨sound, rfl, rfl, rfl, ?_⟩
      rw [List.append_nil, ite_self]
      rfl
  | some batch =>
      let moved : Host graphics := { h with contacts }
      have offered : Offered moved _ _ _ := offers_motion (h := moved) (k := k) sound batch
      have left := stateOf_return (onController (Controller.motion k batch)) (fun _ => ()) moved
      rw [← left] at offered
      exact ⟨offered.sound, offered.touches, offered.opened, offered.ended, offered.inputs⟩

end Offers
end Handle

end SurfaceGate.Desktop
