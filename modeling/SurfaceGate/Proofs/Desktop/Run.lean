import SurfaceGate.Desktop.Host
import SurfaceGate.Proofs.Invariant
import SurfaceGate.Proofs.Outline.Calls

/-!
Runs of the desktop host: the events of the window system, one after another.

Between two events the worker takes steps, and the window on the screen may change behind the back of the
host. What an event does beside its call of the controller is told once, by the kinds of its changes. An
invariant of sessions holds through every event, and what is beside the call is hushed: the outline of the
controller does not show it.
-/

namespace SurfaceGate.Desktop

open Graphics (System)

/-- What may happen next to a host. -/
inductive Happening where
  | event (k : Conditions) (event : WindowEvent)
  | worked (steps : Nat)
  | changed (screen : Screen)

variable {graphics : System} {α β : Type}

namespace Host

def happened (h : Host graphics) : Happening → Host graphics
  | .event k event => stateOf (Handle.event k event h)
  | .worked steps => { h with controller := h.controller.rested steps }
  | .changed screen => { h with screen }

def run (h : Host graphics) (happenings : List Happening) : Host graphics :=
  happenings.foldl happened h

/-- A host whose session has a property. -/
def On (I : Session (Clear.engine graphics) WindowCall → Prop) (h : Host graphics) : Prop :=
  I h.controller.session

end Host

namespace Handle

/-- The host writes into the journal, and changes what is its own. -/
structure Asks (R : Host graphics → Host graphics → Prop) : Prop where
  noted : ∀ {entry : Entry (Clear.engine graphics) WindowCall}, entry.mark? = none → entry.call? = none →
    Along R (onController (Control.onSession (Act.note entry)) : Handle graphics Unit)
  supported : Along R (onController (modify ({ · with supported := true })) : Handle graphics Unit)
  kept : ∀ (h : Host graphics) (screen : Screen) (requested : Nat) (window : Option Clear.WindowId)
    (active : Bool), R h { h with screen, requested, window, active }

namespace Asks

variable {R : Host graphics → Host graphics → Prop} (asks : Asks R)
include asks

theorem log (level : Log.Level) (text : String) : Along R (Handle.log level text : Handle graphics Unit) :=
  asks.noted rfl rfl

theorem ask (request : WindowCall) : Along R (Handle.ask request : Handle graphics Unit) :=
  asks.noted rfl rfl

variable [Spans R]

theorem fillScreen : Along R (Handle.fillScreen : Handle graphics Unit) :=
  .read fun _ => .branch (.bind (asks.ask _) fun _ =>
    .change fun h => asks.kept h { h.screen with filled := true } h.requested h.window h.active) (.pure _)

theorem focus (focused : Bool) :
    Along R (Controller.focus Handle.support focused : Handle graphics Unit) := by
  cases focused with
  | false => exact .pure _
  | true => exact asks.fillScreen

theorem requestWindow : Along R (Handle.requestWindow : Handle graphics _) := by
  have counted (requested : Nat) : Along R (modify ({ · with requested }) : Handle graphics PUnit) :=
    .change fun h => asks.kept h h.screen requested h.window h.active
  refine .read fun h => .bind (counted _) fun _ => .bind (asks.ask _) fun _ => ?_
  cases h.windows.openWindow h.requested with
  | error text => exact .pure _
  | ok _ => exact .pure _

theorem needWindow : Along R (Handle.needWindow : Handle graphics _) := by
  refine .read fun h => ?_
  cases h.window with
  | some window => exact .pure _
  | none =>
      refine .bind asks.requestWindow fun answer => ?_
      cases answer with
      | error why => exact .pure _
      | ok window =>
          exact .bind (.change fun h => asks.kept h h.screen h.requested (some window) h.active) fun _ => .pure _

theorem openActivity : Along R (Handle.openActivity : Handle graphics Unit) := by
  refine .read fun h => .branch (.bind ?_ fun _ =>
    .change fun h => asks.kept h h.screen h.requested h.window true) (.pure _)
  refine .bind (fun h => Spans.refl h) fun greeting => .bind (asks.log _ _) fun _ => ?_
  refine .bind asks.fillScreen fun _ => .bind (.bind (asks.log _ _) fun _ => .pure _) fun answer => ?_
  cases answer with
  | error why => exact .bind (asks.log _ _) fun _ => asks.supported
  | ok _ => exact asks.supported

/-- The window goes, and with it the loop of events. -/
theorem closeWindow : Along R (do
    modify ({ · with window := none })
    Handle.ask .endLoop : Handle graphics Unit) :=
  .bind (.change fun h => asks.kept h h.screen h.requested none h.active) fun _ => asks.ask _

end Asks
end Handle

section Stable

variable {I : Session (Clear.engine graphics) WindowCall → Prop}

theorem Handle.preserves_onController {x : Control (Clear.engine graphics) WindowCall α}
    (kept : Preserves (Controller.On I) x) : Preserves (Host.On I) (Handle.onController x) := by
  intro h holds
  have after := kept h.controller holds
  simp only [Handle.onController]
  cases hx : x h.controller with
  | ok a c | error panic c =>
      rw [hx] at after
      exact after

end Stable
end SurfaceGate.Desktop

namespace SurfaceGate.Session.Stable

open Desktop Desktop.Handle

variable {graphics : Graphics.System} {I : Session (Clear.engine graphics) WindowCall → Prop}
  (stable : Stable I)
include stable

theorem hostAsks : Handle.Asks fun h h' : Host graphics => h.On I → h'.On I where
  noted _ uncalled := preserves_onController (stable.note uncalled)
  supported := preserves_onController (.change fun _ => stable.serves.supported)
  kept _ _ _ _ _ := id

theorem hostAdopt (k : Conditions) (size : Extent) :
    Preserves (Host.On I) (Handle.adopt k size : Handle graphics Unit) := by
  refine .read fun h => ?_
  cases h.window with
  | none => exact .pure _
  | some window =>
      refine .branch (.bind (stable.hostAsks.log _ _) fun _ => preserves_onController (stable.serves.release k)) ?_
      refine .branch (stable.hostAsks.log _ _) ?_
      refine .bind (preserves_onController (stable.adopt k size window h.assets)) fun answer => ?_
      cases answer with
      | error error => exact stable.hostAsks.log _ _
      | ok _ => exact .pure _

theorem hostCloseActivity (k : Conditions) :
    Preserves (Host.On I) (Handle.closeActivity k : Handle graphics Unit) := by
  refine .bind (preserves_onController (stable.closeActivity k)) fun answer => ?_
  cases answer with
  | error error => exact stable.hostAsks.log _ _
  | ok _ => exact .pure _

theorem gain (k : Conditions) : Preserves (Host.On I) (Handle.gain k : Handle graphics Unit) := by
  refine .bind stable.hostAsks.needWindow fun window => ?_
  cases window with
  | error why => exact .bind (stable.hostAsks.log _ _) fun _ => stable.hostAsks.ask _
  | ok _ =>
      refine .bind stable.hostAsks.openActivity fun _ => ?_
      refine .bind (preserves_onController (stable.note rfl)) fun _ => .read fun _ => ?_
      exact stable.hostAdopt k _

theorem handOn (k : Conditions) (batch : Option Input.Motion) :
    Preserves (Host.On I) (Handle.handOn k batch : Handle graphics Unit) := by
  cases batch with
  | none => exact .pure _
  | some batch => exact .bind (preserves_onController (stable.serves.motion k batch)) fun _ => .pure _

theorem follow (k : Conditions) (contact : Contact) (stroke : Stroke) (position : Input.Point) :
    Preserves (Host.On I) (Handle.follow k contact stroke position : Handle graphics Unit) :=
  .read fun _ => .bind (.change fun _ holds => holds) fun _ => stable.handOn k _

theorem lose (k : Conditions) : Preserves (Host.On I) (Handle.lose k : Handle graphics Unit) :=
  .read fun _ => .bind (.change fun _ holds => holds) fun _ => .bind (stable.handOn k _) fun _ =>
    preserves_onController (stable.serves.release k)

theorem press (k : Conditions) (code : Option Int) (down repeated : Bool) :
    Preserves (Host.On I) (Handle.press k code down repeated : Handle graphics Unit) := by
  refine .branch ?_ (.pure _)
  cases code with
  | none => exact .pure _
  | some code => exact .bind (preserves_onController (stable.serves.key k _)) fun _ => .pure _

theorem event (k : Conditions) (event : WindowEvent) :
    Preserves (Host.On I) (Handle.event k event : Handle graphics Unit) := by
  cases event with
  | gained => exact stable.gain k
  | lost => exact stable.lose k
  | leaving => exact .read fun _ => .branch (stable.hostCloseActivity k) (.pure _)
  | close => exact .bind (stable.hostCloseActivity k) fun _ => stable.hostAsks.closeWindow
  | sized size => exact stable.hostAdopt k size
  | focus focused => exact .read fun _ => .branch (stable.hostAsks.focus focused) (.pure _)
  | finger number stroke x y => exact stable.follow k _ _ _
  | cursor x y =>
      refine .bind (.change fun _ holds => holds) fun _ => .read fun _ => ?_
      exact .branch (stable.follow k _ _ _) (.pure _)
  | button down => exact .read fun _ => stable.follow k _ _ _
  | key code down repeated => exact stable.press k code down repeated
  | other => exact .pure _

/-- An invariant of sessions holds in every run of the host. -/
theorem hostRun {h : Host graphics} (holds : h.On I) (happenings : List Happening) :
    (h.run happenings).On I := by
  induction happenings generalizing h with
  | nil => exact holds
  | cons happening later ih =>
      refine ih ?_
      cases happening with
      | event k event => exact stable.event k event h holds
      | worked steps => exact stable.everywhere.steps steps holds
      | changed screen => exact holds

end SurfaceGate.Session.Stable

namespace SurfaceGate.Desktop

variable {graphics : Graphics.System} {α β : Type} {h h' : Host graphics}

namespace Host

/-- Neither the outline of the controller nor the contacts tell `h'` from `h`. -/
structure Hushed (h h' : Host graphics) : Prop where
  outline : h'.controller.outline = h.controller.outline
  gated : h.controller.session.Gated → h'.controller.session.Gated
  contacts : h'.contacts = h.contacts

theorem Hushed.refl (h : Host graphics) : Hushed h h :=
  ⟨rfl, id, rfl⟩

theorem Hushed.trans {m : Host graphics} (first : Hushed h m) (second : Hushed m h') : Hushed h h' :=
  ⟨second.outline.trans first.outline, second.gated ∘ first.gated,
    second.contacts.trans first.contacts⟩

theorem Hushed.sound (hushed : Hushed h h') (sound : h.controller.Sound) : h'.controller.Sound :=
  ⟨hushed.outline ▸ sound.outline, hushed.gated sound.gated⟩

theorem Hushed.of_unmoved {s : Session (Clear.engine graphics) WindowCall}
    (still : h.controller.session.Unmoved s) :
    Hushed h { h with controller := { h.controller with session := s } } := by
  refine ⟨?_, still.gated, rfl⟩
  simp only [Controller.outline, still.phase, still.bound, still.ready, still.worker, still.history]

end Host

namespace Handle

open Host

instance : Spans (Hushed : Host graphics → Host graphics → Prop) where
  refl := Hushed.refl
  trans := Hushed.trans

/-- A step of the host that is hushed, whether it returns or panics. -/
abbrev Hushes (x : Handle graphics α) : Prop :=
  Along Hushed x

theorem asks_hushed : Asks (Hushed : Host graphics → Host graphics → Prop) where
  noted unmarked uncalled h := by
    refine Hushed.of_unmoved (Session.Unmoved.write unmarked ?_)
    rintro record rfl
    cases uncalled
  supported _ := ⟨rfl, id, rfl⟩
  kept _ _ _ _ _ := ⟨rfl, id, rfl⟩

end Handle
end SurfaceGate.Desktop
