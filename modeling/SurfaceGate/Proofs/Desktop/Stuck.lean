import SurfaceGate.Proofs.Clear.Fingers
import SurfaceGate.Proofs.Desktop.Surface

/-!
Fingers that the engine counts while no contact is down.

The engine hears of a touch only through an open gate, and nothing sets its count back. While the gate is
open, no more fingers are counted than pointers are down, and every pointer is a contact. That is kept by
all that is reported of contacts, and by a surface that comes. When the surface goes, a finger that was heard
to go down may go up unheard; the host prevents that only where it loses the screen.
-/

namespace SurfaceGate.Desktop

open Clear (touched tally downs ups)
open Input (Event Pointers)

namespace Touches

variable {t : Touches} {fingers : Nat}

/-- What a report tells the engine keeps the fingers within the pointers. -/
theorem Covered.counts (covered : t.Covered) (touch : Touch)
    (few : (t.strike touch).2.contacts.held.length ≤ 256) (bounded : fingers ≤ t.pointers.count) :
    (t.strike touch).1.foldl touched fingers ≤ (t.strike touch).2.pointers.count := by
  obtain ⟨contact, stroke, position⟩ := touch
  rcases t.contacts.strike_cases contact stroke position with
    quiet | ⟨rfl, new⟩ | ⟨rfl, i, found⟩ | ⟨rfl, i, found⟩ | ⟨rfl, some_held⟩
  · rw [strike_of_none quiet]
    exact bounded
  · obtain ⟨d, s, named, struck⟩ := strike_down new position
    rw [struck] at few ⊢
    have room : t.contacts.held.length < 256 := by
      simp only [Contacts.joined, List.length_append, List.length_singleton] at few
      omega
    rw [Nat.mod_eq_of_lt room, Contacts.joined, List.getElem?_concat_length] at named
    cases named
    have fresh : ∀ x, (t.contacts.freeIdentity, x) ∉ t.pointers.active := by
      intro x there
      obtain ⟨other, held⟩ := covered.mem_held there
      refine t.contacts.freeIdentity_not_mem ?_
      rw [Contacts.identities_eq]
      exact List.mem_map.mpr ⟨_, held, rfl⟩
    rw [Pointers.count_insert_of_new fresh]
    exact Nat.succ_le_succ bounded
  · rw [strike_move found, Pointers.count_followAll]
    rw [Clear.foldl_touched_of_still]
    · exact bounded
    · intro event moved
      obtain ⟨s, -, rfl⟩ := List.mem_map.mp moved
      exact ⟨rfl, rfl⟩
  · obtain ⟨d, s, -, struck⟩ := strike_up found position
    rw [struck]
    have kept := covered.ordered.count_le_erase s.id
    change fingers - 1 ≤ (t.pointers.erase s.id).count
    omega
  · rw [strike_cancel contact some_held]
    have lifted : ∀ event ∈ (t.pointers.followAll t.contacts.samples).lifts, event.isUp = true := by
      intro event up
      obtain ⟨entry, -, rfl⟩ := List.mem_map.mp up
      rfl
    rw [Clear.foldl_touched_of_ups lifted, Pointers.lifts, List.length_map]
    have kept : fingers ≤ (t.pointers.followAll t.contacts.samples).active.length :=
      bounded.trans_eq (Pointers.count_followAll _ _).symm
    omega

end Touches

/-- Whether the program loses the screen. -/
def Happening.loses : Happening → Bool
  | .event _ .lost => true
  | _ => false

variable {graphics : Graphics.System} {h h' : Host graphics}

namespace Host

/-- The fingers that the engine counts. -/
def fingers (h : Host graphics) : Nat :=
  Clear.State.fingers h.controller.session.gate.engine

/-- While the gate is open, at most the pointers that are down are counted, and behind a closed gate no
finger is, unless the activity is over. -/
structure Balanced (h : Host graphics) : Prop where
  sound : h.controller.Sound
  covered : h.touches.Covered
  counted : h.controller.isOpen = true → tally h.inputs ≤ h.controller.pointers.count
  clear : h.controller.isOpen = false → h.controller.ended = false → tally h.inputs = 0

theorem balanced_new (settings : Settings) (files : FileSystem) (windows : WindowSystem)
    (screen : Screen) : (new settings files windows screen : Host graphics).Balanced where
  sound := Controller.sound_new _ _
  covered := Touches.covered_start
  counted := nofun
  clear _ _ := rfl

namespace Balanced

variable (balanced : h.Balanced)
include balanced

/-- A surface that goes must leave no finger behind that the engine counts. -/
theorem shifted (shifted : Shifted h h')
    (heard : h.controller.isOpen = true → h'.controller.isOpen = false →
      h'.controller.ended = false → tally h.inputs = 0) : h'.Balanced where
  sound := shifted.sound
  covered := by
    rw [touches, shifted.contacts]
    rcases shifted.outline.pointers with same | ⟨none_down, -⟩
    · have pointers : h'.controller.pointers = h.controller.pointers := same
      rw [pointers]
      exact balanced.covered
    · have pointers : h'.controller.pointers = .empty := none_down
      rw [pointers]
      refine ⟨balanced.covered.distinct, Pointers.ordered_empty, fun id x there => ?_⟩
      exact absurd there List.not_mem_nil
  counted opened := by
    rw [shifted.inputs]
    rcases shifted.outline.pointers with same | ⟨-, shut⟩
    · have pointers : h'.controller.pointers = h.controller.pointers := same
      rw [pointers]
      cases before : h.controller.isOpen with
      | true => exact balanced.counted before
      | false =>
          -- The gate was opened, so the activity is not over.
          have lasts : h.controller.ended = false := by
            refine Bool.eq_false_iff.mpr fun ended => ?_
            have shut := shifted.sound.outline.closed_of_ended (shifted.outline.ended ended)
            exact Bool.noConfusion (shut.symm.trans opened)
          rw [balanced.clear before lasts]
          exact Nat.zero_le _
    · exact Bool.noConfusion (shut.symm.trans opened)
  clear shut lasts := by
    have lasted : h.controller.ended = false :=
      Bool.eq_false_iff.mpr fun ended => Bool.noConfusion (lasts.symm.trans (shifted.outline.ended ended))
    rw [shifted.inputs]
    cases before : h.controller.isOpen with
    | true => exact heard before shut lasts
    | false => exact balanced.clear before lasted

theorem hushed (hushed : Hushed h h') : h'.Balanced := by
  refine balanced.shifted (hushed.moved balanced.sound) fun opened shut => ?_
  have same : h'.controller.isOpen = h.controller.isOpen := congrArg Outline.ready hushed.outline
  exact Bool.noConfusion ((opened.symm.trans same.symm).trans shut)

theorem offered {t : Touches} {events : List Event} (offered : Offered h t events h')
    (covered : t.Covered)
    (counted : ∀ fingers, fingers ≤ h.controller.pointers.count →
      events.foldl touched fingers ≤ t.pointers.count) : h'.Balanced where
  sound := offered.sound
  covered := offered.touches ▸ covered
  counted opened := by
    have before := offered.opened.symm.trans opened
    have pointers : h'.controller.pointers = t.pointers := congrArg Touches.pointers offered.touches
    rw [offered.inputs, if_pos before, Clear.tally_append, pointers]
    exact counted _ (balanced.counted before)
  clear shut lasts := by
    have before := offered.opened.symm.trans shut
    rw [offered.inputs, if_neg (by simp [before])]
    exact balanced.clear before (offered.ended.symm.trans lasts)

theorem follow (k : Conditions) (touch : Touch)
    (few : (stateOf (Handle.follow k touch.contact touch.stroke touch.position h)).contacts.held.length
      ≤ 256) :
    (stateOf (Handle.follow k touch.contact touch.stroke touch.position h)).Balanced := by
  have offered := Handle.offers_follow (k := k) balanced.sound touch
  have same := congrArg (fun t => t.contacts.held.length) offered.touches
  refine balanced.offered offered (balanced.covered.strike touch) fun _ bounded => ?_
  exact balanced.covered.counts touch (same.symm.trans_le few) bounded

theorem key (k : Conditions) (pressed : Input.Key) :
    (stateOf (Handle.onController (Controller.key k pressed) h)).Balanced := by
  refine balanced.offered (Handle.offers_key balanced.sound pressed) balanced.covered ?_
  intro fingers bounded
  refine Nat.le_trans (Nat.le_of_eq (Clear.foldl_touched_of_still (fun event there => ?_) fingers)) bounded
  obtain ⟨action, -, rfl⟩ := Option.map_eq_some_iff.mp (Option.mem_toList.mp there)
  exact ⟨rfl, rfl⟩

theorem press (k : Conditions) (code : Option Int) (down repeated : Bool) :
    (stateOf (Handle.press k code down repeated h)).Balanced := by
  cases repeated with
  | true => exact balanced
  | false =>
      cases code with
      | none => exact balanced
      | some code =>
          let pressed : Input.Key := ⟨if down then Input.Code.keyDown else Input.Code.keyUp, code⟩
          have left := stateOf_return (Handle.onController (Controller.key k pressed)) (fun _ => ()) h
          exact left ▸ balanced.key k pressed

/-- Without contacts no finger is counted. -/
theorem tally_eq_zero (opened : h.controller.isOpen = true) (none_held : h.contacts.held = []) :
    tally h.inputs = 0 := by
  have gone : h.controller.pointers = .empty := balanced.covered.follows.empty none_held
  have counted := balanced.counted opened
  rw [gone] at counted
  exact Nat.le_zero.mp counted

/-- Every contact is lifted before the surface goes. -/
theorem lose (k : Conditions) : (stateOf (Handle.lose k h)).Balanced := by
  let touch : Touch := ⟨.mouse, .isCancelled, origin⟩
  have lifted : (h.touches.strike touch).2.contacts.held = [] := by
    rw [Touches.contacts_strike]
    exact h.contacts.held_cancel
  have offered := Handle.offers_follow (k := k) balanced.sound touch
  have none_held : (stateOf (Handle.follow k .mouse .isCancelled origin h)).contacts.held = [] :=
    (congrArg (fun t => t.contacts.held) offered.touches).trans lifted
  have few : (stateOf (Handle.follow k .mouse .isCancelled origin h)).contacts.held.length ≤ 256 := by
    rw [none_held]
    exact Nat.zero_le _
  have both : (stateOf (Handle.lose k h)).Balanced ∧ (stateOf (Handle.lose k h)).contacts.held = [] := by
    refine stateOf_bind_of (R := fun _ (m : Host graphics) => m.Balanced ∧ m.contacts.held = [])
      (x := Handle.follow k .mouse .isCancelled origin)
      (f := fun _ => Handle.onController (Controller.release k)) (fun _ second => second)
      ⟨balanced.follow k touch few, none_held⟩ fun _ m ⟨left, gone⟩ => ?_
    have shifted := Handle.Shifts.release k m left.sound
    refine ⟨left.shifted shifted fun opened _ _ => left.tally_eq_zero opened gone, ?_⟩
    rw [shifted.contacts, gone]
  exact both.1

end Balanced

/-- The surface went while the engine counted a finger, and it may come again. -/
def Robbed (h h' : Host graphics) : Prop :=
  h.controller.isOpen = true ∧ h'.controller.isOpen = false ∧ h'.controller.ended = false ∧
    h.fingers ≠ 0

instance (h h' : Host graphics) : Decidable (Robbed h h') :=
  inferInstanceAs (Decidable (_ ∧ _ ∧ _ ∧ _))

theorem Balanced.move (balanced : h.Balanced) (tallied : h.On Clear.Tallied) (shifted : Shifted h h')
    (kept : ¬Robbed h h') : h'.Balanced := by
  refine balanced.shifted shifted fun opened shut lasts => ?_
  have counts : h.fingers = tally h.inputs := tallied
  rw [← counts]
  exact Decidable.of_not_not fun left => kept ⟨opened, shut, lasts, left⟩

/-- No happening other than the loss of the screen robs the engine of a surface while it counts a finger, and
there are never more contacts than a batch can name. -/
def Gentle (h : Host graphics) : List Happening → Prop
  | [] => True
  | happening :: later =>
      (happening.loses = false → ¬Robbed h (h.happened happening)) ∧
        (h.happened happening).contacts.held.length ≤ 256 ∧ (h.happened happening).Gentle later

instance decidableGentle : (h : Host graphics) → (happenings : List Happening) →
    Decidable (h.Gentle happenings)
  | _, [] => isTrue trivial
  | h, happening :: later =>
      have := decidableGentle (h.happened happening) later
      inferInstanceAs (Decidable (_ ∧ _ ∧ _))

theorem Balanced.event (balanced : h.Balanced) (tallied : h.On Clear.Tallied) (k : Conditions)
    (event : WindowEvent)
    (kept : (Happening.event k event).loses = false → ¬Robbed h (stateOf (Handle.event k event h)))
    (few : (stateOf (Handle.event k event h)).contacts.held.length ≤ 256) :
    (stateOf (Handle.event k event h)).Balanced := by
  have moved (shifts : Handle.Shifts (Handle.event k event : Handle graphics Unit))
      (stays : (Happening.event k event).loses = false) : (stateOf (Handle.event k event h)).Balanced :=
    balanced.move tallied (shifts h balanced.sound) (kept stays)
  cases event with
  | gained => exact moved (.gain k) rfl
  | sized size => exact moved (.adopt k size) rfl
  | leaving => exact moved (.leave k) rfl
  | close => exact moved (.close k) rfl
  | focus focused => exact moved (.focus k focused) rfl
  | lost => exact balanced.lose k
  | finger number stroke x y => exact balanced.follow k ⟨.finger number, stroke, Handle.position x y⟩ few
  | button down =>
      exact balanced.follow k ⟨.mouse, if down then .goesDown else .goesUp, h.cursor⟩ few
  | cursor x y =>
      let there : Host graphics := { h with cursor := Handle.position x y }
      have moved : there.Balanced := balanced.hushed ⟨rfl, id, rfl⟩
      have followed : Handle.event k (.cursor x y) h =
          (if there.contacts.isDown .mouse then
            Handle.follow k .mouse .moves (Handle.position x y)
          else pure ()) there := rfl
      rw [followed] at few ⊢
      by_cases down : there.contacts.isDown .mouse = true
      · rw [if_pos down] at few ⊢
        exact moved.follow k ⟨.mouse, .moves, Handle.position x y⟩ few
      · rw [if_neg down]
        exact moved
  | key code down repeated => exact balanced.press k code down repeated
  | other => exact balanced

theorem Balanced.happened (balanced : h.Balanced) (tallied : h.On Clear.Tallied) (happening : Happening)
    (kept : happening.loses = false → ¬Robbed h (h.happened happening))
    (few : (h.happened happening).contacts.held.length ≤ 256) : (h.happened happening).Balanced := by
  cases happening with
  | event k event => exact balanced.event tallied k event kept few
  | worked steps =>
      have still := Session.Unmoved.steps steps h.controller.session
      exact balanced.hushed (.of_unmoved still)
  | changed screen => exact balanced.hushed ⟨rfl, id, rfl⟩

theorem Balanced.run (balanced : h.Balanced) (tallied : h.On Clear.Tallied)
    (happenings : List Happening) (gentle : h.Gentle happenings) : (h.run happenings).Balanced := by
  induction happenings generalizing h with
  | nil => exact balanced
  | cons happening later ih =>
      obtain ⟨kept, few, gentle⟩ := gentle
      have counted := Clear.stable_tallied.hostRun tallied [happening]
      exact ih (balanced.happened tallied happening kept few) counted gentle

/-- A finger is left exactly if some last part of what the engine heard has more downs than ups. As long as
the surface is not taken from under a finger, none is left when no contact is down. -/
theorem run_releases (settings : Settings) (files : FileSystem) (windows : WindowSystem)
    (screen : Screen) (happenings : List Happening) :
    let start : Host graphics := new settings files windows screen
    let left := start.run happenings
    (left.fingers = 0 ↔ ∀ later, later <:+ left.inputs → downs later ≤ ups later) ∧
      (start.Gentle happenings → left.controller.isOpen = true → left.contacts.held = [] →
        left.fingers = 0) := by
  intro start left
  have fresh : start.On Clear.Tallied := rfl
  have tallied : left.fingers = tally left.inputs := Clear.stable_tallied.hostRun fresh happenings
  refine ⟨?_, fun gentle opened none_held => ?_⟩
  · rw [tallied]
    exact Clear.tally_eq_zero_iff
  · have balanced := (balanced_new settings files windows screen).run fresh happenings gentle
    exact tallied.trans (balanced.tally_eq_zero opened none_held)

/-- Everything is there that the host asks for. -/
def willing : Graphics.System where
  adapter _ := .ok "adapter"
  device _ := .ok ()
  surface _ := .ok ⟨[.bgra8UnormSrgb], [.solid]⟩
  acquire _ := .ok

def plain : Host willing :=
  new .default ⟨.emptyDirectory⟩ ⟨.ok (), fun _ => .ok (), .ok ()⟩ ⟨⟨1280, 720⟩, false⟩

def finger (stroke : Stroke) : WindowEvent :=
  .finger 7 stroke 10.0 10.0

/-- The window changes its size under a finger, and the screen is lost under a finger and the mouse. -/
theorem run_releases_lost :
    let happenings : List Happening :=
      [.event .calm .gained, .event .calm (finger .goesDown), .event .calm (.sized ⟨800, 600⟩),
        .event .calm (.button true), .event .calm .lost, .event .calm .gained]
    plain.Gentle happenings ∧ (plain.run happenings).controller.isOpen = true ∧
      (plain.run happenings).contacts.held = [] ∧ (plain.run happenings).fingers = 0 := by
  intro happenings
  have gentle : plain.Gentle happenings := by decide +kernel
  have opened : (plain.run happenings).controller.isOpen = true := by decide +kernel
  have none_held : (plain.run happenings).contacts.held = [] := by decide +kernel
  exact ⟨gentle, opened, none_held, (run_releases _ _ _ _ happenings).2 gentle opened none_held⟩

/-- The window shrinks to nothing under a finger and grows again when the finger is gone. -/
theorem run_keeps_unheard :
    let happenings : List Happening :=
      [.event .calm .gained, .event .calm (finger .goesDown), .event .calm (.sized ⟨0, 0⟩),
        .event .calm (finger .goesUp), .event .calm (.sized ⟨800, 600⟩)]
    (plain.run happenings).controller.isOpen = true ∧ (plain.run happenings).contacts.held = [] ∧
      (plain.run happenings).fingers = 1 := by
  decide +kernel

end Host
end SurfaceGate.Desktop
