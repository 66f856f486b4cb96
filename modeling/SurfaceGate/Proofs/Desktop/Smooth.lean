import SurfaceGate.Proofs.Clear.Surface
import SurfaceGate.Proofs.Desktop.Run
import SurfaceGate.Proofs.Desktop.Settings
import SurfaceGate.Proofs.Smooth

/-!
A host whose engine never panics.

The session of a host is kept: its engine is faithful to its calls, and its journal tells whether the
activity was opened. Most steps leave surface, window and activity as they are. The others are told by what
they leave: the activity open, a window made or refused, a surface fitted to a size, or nothing of a cycle.
-/

namespace SurfaceGate.Desktop

variable {graphics : Graphics.System} {α β : Type}

/-- What holds of a session of the host, before and behind the opening of the activity. -/
def Kept (opened : Bool) (s : Session (Clear.engine graphics) WindowCall) : Prop :=
  Clear.Faithful s.gate s.journal.calls ∧ s.journal.Tells opened

variable {settings : RenderSettings}

theorem calm_kept (named : ∀ cycle, settings.startPanic? cycle = none) (opened : Bool) :
    Session.Calm settings (fun size => size.isEmpty = false)
      (Kept opened : Session (Clear.engine graphics) WindowCall → Prop) where
  toUpheld := Clear.upheld_faithful.and (Session.upheld_tells _ opened)
  returned kept := kept.1.returned
  named := named

namespace Kept

variable {s : Session (Clear.engine graphics) WindowCall} {entry : Entry (Clear.engine graphics) WindowCall}

theorem opened (kept : Kept false s) (opens : entry.Opens) : Kept true (s.write entry) := by
  refine ⟨kept.1.write ?_, kept.2.opened opens⟩
  obtain ⟨_, rfl⟩ := opens
  rfl

theorem changed (changes : entry.Changes) (kept : Kept true s) : Kept true (s.write entry) :=
  ⟨kept.1.write changes.uncalled, kept.2.changed changes⟩

end Kept

namespace Host

/-- The controller is between two calls, all of which returned. -/
abbrev Smooth (settings : RenderSettings) (opened : Bool) (h : Host graphics) : Prop :=
  h.controller.Smooth settings (Kept opened)

/-- The surface, the window and the activity are the same. -/
structure Still (h h' : Host graphics) : Prop where
  controller : h.controller.Still h'.controller
  window : h'.window = h.window
  active : h'.active = h.active
  screen : h'.screen.size = h.screen.size

instance : Spans (Still : Host graphics → Host graphics → Prop) where
  refl _ := ⟨Spans.refl _, rfl, rfl, rfl⟩
  trans first second := ⟨Spans.trans first.controller second.controller, second.window.trans first.window,
    second.active.trans first.active, second.screen.trans first.screen⟩

end Host

namespace Handle

/-- A step that returns and leaves surface, window and activity as they are. -/
abbrev Stays (settings : RenderSettings) (opened : Bool) (x : Handle graphics α) : Prop :=
  Passes (Host.Smooth settings opened) Host.Still x

theorem passes_onController {P : Controller (Clear.engine graphics) WindowCall → Prop}
    {R : Controller (Clear.engine graphics) WindowCall → Controller (Clear.engine graphics) WindowCall → Prop}
    {x : Control (Clear.engine graphics) WindowCall α} (passes : Passes P R x) :
    Passes (fun h : Host graphics => P h.controller)
      (fun h h' => R h.controller h'.controller ∧ h' = { h with controller := h'.controller })
      (onController x) := by
  intro h before
  obtain ⟨a, d, returned, after, along⟩ := passes h.controller before
  refine ⟨a, { h with controller := d }, ?_, after, along, rfl⟩
  rw [onController, returned]

namespace Stays

variable {opened : Bool}

theorem onController {x : Control (Clear.engine graphics) WindowCall α}
    (passes : Passes (Controller.Smooth settings (Kept opened)) Controller.Still x) :
    Stays settings opened (Handle.onController x) := by
  refine (passes_onController passes).imp ?_
  rintro h h' - ⟨still, same⟩
  rw [same]
  exact ⟨still, rfl, rfl, rfl⟩

theorem change {f : Host graphics → Host graphics} (controller : ∀ h, (f h).controller = h.controller)
    (window : ∀ h, (f h).window = h.window) (active : ∀ h, (f h).active = h.active)
    (screen : ∀ h, (f h).screen.size = h.screen.size) :
    Stays settings opened (modify f : Handle graphics PUnit) := by
  refine Passes.change (fun h smooth => ?_) fun h => ⟨?_, window h, active h, screen h⟩
  · rwa [Host.Smooth, controller]
  · rw [controller]
    exact Spans.refl _

variable (named : ∀ cycle, settings.startPanic? cycle = none)
include named

theorem log {level : Log.Level} {text : String}
    (plain : (.line .host ⟨level, text⟩ : Entry (Clear.engine graphics) WindowCall).Plain) :
    Stays settings opened (Handle.log level text : Handle graphics Unit) :=
  onController ((calm_kept named opened).log plain)

theorem ask (request : WindowCall) :
    Stays settings opened (Handle.ask request : Handle graphics Unit) :=
  onController ((calm_kept named opened).note rfl (Entry.plain_of_unsaid rfl nofun))

theorem fillScreen : Stays settings opened (Handle.fillScreen : Handle graphics Unit) := by
  refine .read fun _ => .branch (.bind (ask named _) fun _ => ?_) (.pure _)
  exact change (fun _ => rfl) (fun _ => rfl) (fun _ => rfl) fun _ => rfl

theorem focus (k : Conditions) (focused : Bool) :
    Stays settings opened (Handle.event k (.focus focused) : Handle graphics Unit) := by
  refine .read fun _ => .branch ?_ (.pure _)
  cases focused with
  | false => exact .pure _
  | true => exact fillScreen named

theorem handOn (k : Conditions) (batch : Option Input.Motion) :
    Stays settings opened (Handle.handOn k batch : Handle graphics Unit) := by
  cases batch with
  | none => exact .pure _
  | some batch => exact .bind (onController ((calm_kept named opened).motion k batch)) fun _ => .pure _

theorem follow (k : Conditions) (contact : Contact) (stroke : Stroke) (position : Input.Point) :
    Stays settings opened (Handle.follow k contact stroke position : Handle graphics Unit) := by
  refine .read fun _ => .bind ?_ fun _ => handOn named k _
  exact change (fun _ => rfl) (fun _ => rfl) (fun _ => rfl) fun _ => rfl

theorem cursor (k : Conditions) (x y : Float) :
    Stays settings opened (Handle.event k (.cursor x y) : Handle graphics Unit) := by
  refine .bind ?_ fun _ => .read fun _ => .branch (follow named k _ _ _) (.pure _)
  exact change (fun _ => rfl) (fun _ => rfl) (fun _ => rfl) fun _ => rfl

theorem press (k : Conditions) (code : Option Int) (down repeated : Bool) :
    Stays settings opened (Handle.press k code down repeated : Handle graphics Unit) := by
  refine .branch ?_ (.pure _)
  cases code with
  | none => exact .pure _
  | some code => exact .bind (onController ((calm_kept named opened).key k _)) fun _ => .pure _

end Stays
end Handle

namespace Host

variable {h h' : Host graphics}

def said (h : Host graphics) (level : Log.Level) (text : String) : Host graphics :=
  { h with controller := h.controller.said level text }

theorem still_said (h : Host graphics) (level : Log.Level) (text : String) :
    h.Still (h.said level text) :=
  ⟨⟨rfl, rfl, rfl, rfl, rfl⟩, rfl, rfl, rfl⟩

/-- What a surface of a size makes of a host with a window. -/
structure Fitted (window : Clear.WindowId) (size : Extent) (h h' : Host graphics) : Prop where
  same : h' = { h with controller := h'.controller }
  empty : size.isEmpty = true → h'.controller.Down
  kept : size.isEmpty = false → h.rendersAt size = true →
    h' = h.said .trace s!"surface already bound at {size.width}x{size.height}"
  renewed : size.isEmpty = false → h.rendersAt size = false → h'.controller.Down ∨
    h'.controller.ReadyWith size window ∧ h'.controller.cycles = h.controller.cycles + 1
  ended : h.controller.ended = true → h'.controller.ended = true

end Host

namespace Handle

open Host

theorem needWindow_of_window {h : Host graphics} {window : Clear.WindowId} (held : h.window = some window) :
    needWindow h = .ok (.ok window) h := by
  refine (get_bind _ h).trans ?_
  rw [held]
  rfl

theorem needWindow_of_refused {h m : Host graphics} (windowless : h.window = none) {why : Failure}
    (refused : requestWindow h = .ok (.error why) m) : needWindow h = .ok (.error why) m := by
  refine (get_bind _ h).trans ?_
  rw [windowless]
  exact bind_of_ok refused

theorem needWindow_of_made {h m : Host graphics} (windowless : h.window = none) {window : Clear.WindowId}
    (made : requestWindow h = .ok (.ok window) m) :
    needWindow h = .ok (.ok window) { m with window := some window } := by
  refine (get_bind _ h).trans ?_
  rw [windowless]
  exact bind_of_ok made

theorem adopt_of_windowless {h : Host graphics} (windowless : h.window = none) (k : Conditions)
    (size : Extent) : Handle.adopt k size h = .ok () h := by
  refine (get_bind _ h).trans ?_
  rw [windowless]
  rfl

section Courses

variable {h m : Host graphics} {window : Clear.WindowId} (held : h.window = some window) (k : Conditions)
  {size : Extent}
include held

theorem adopt_of_empty (empty : size.isEmpty = true) :
    Handle.adopt k size h =
      onController (Controller.release k) (h.said .debug "surface has no area; releasing it") := by
  refine (get_bind _ h).trans ?_
  rw [held]
  exact congrFun (if_pos empty) h

theorem adopt_of_rendered (area : size.isEmpty = false) (renders : h.rendersAt size = true) :
    Handle.adopt k size h =
      .ok () (h.said .trace s!"surface already bound at {size.width}x{size.height}") := by
  refine (get_bind _ h).trans ?_
  rw [held]
  simp only [area, renders]
  rfl

theorem adopt_of_taken (area : size.isEmpty = false) (other : h.rendersAt size = false)
    (taken : onController (Controller.adopt k size window h.assets) h = .ok (.ok ()) m) :
    Handle.adopt k size h = .ok () m := by
  refine (get_bind _ h).trans ?_
  rw [held]
  simp only [area, other]
  exact bind_of_ok taken

theorem adopt_of_refused (area : size.isEmpty = false) (other : h.rendersAt size = false) {error : GateError}
    (refused : onController (Controller.adopt k size window h.assets) h = .ok (.error error) m) :
    Handle.adopt k size h = .ok () (m.said .error s!"surface unusable: {error.message}") := by
  refine (get_bind _ h).trans ?_
  rw [held]
  simp only [area, other]
  exact (bind_of_ok refused).trans rfl

end Courses

section Returns

variable (named : ∀ cycle, settings.startPanic? cycle = none) {h : Host graphics}
include named

theorem smooth_said {opened : Bool} (smooth : h.Smooth settings opened) {level : Log.Level} {text : String}
    (plain : (.line .host ⟨level, text⟩ : Entry (Clear.engine graphics) WindowCall).Plain) :
    (h.said level text).Smooth settings opened :=
  smooth.write rfl rfl ((calm_kept named opened).write plain smooth.under.2)

/-- Behind the opening of the activity a surface may come. -/
theorem openActivity_returns (smooth : h.Smooth settings h.active) :
    ∃ h', openActivity h = .ok () h' ∧ h'.Smooth settings true ∧ Still { h with active := true } h' := by
  cases active : h.active with
  | true =>
      refine ⟨h, ?_, active ▸ smooth, ⟨Spans.refl _, rfl, active, rfl⟩⟩
      refine (get_bind _ h).trans ?_
      rw [active]
      rfl
  | false =>
      rw [active] at smooth
      let greeting := s!"activity created; engine link: {Clear.greeting}"
      have greeted : (h.said .info greeting).Smooth settings true :=
        smooth.write rfl rfl (smooth.under.2.opened ⟨_, rfl⟩)
      obtain ⟨_, m, filled, after, still⟩ := Stays.fillScreen named _ greeted
      let silent := m.said .info "no audio backend in the desktop host; running silent"
      have quiet : silent.Smooth settings true :=
        smooth_said named after (Entry.plain_of_start (by decide))
      have asks : Stays settings true
          (onController (modify ({ · with supported := true })) : Handle graphics Unit) :=
        Stays.onController <| .change (fun _ smooth => ⟨⟨smooth.sound.outline, smooth.sound.gated⟩,
          smooth.settled, smooth.under⟩) fun _ => ⟨rfl, rfl, rfl, rfl, rfl⟩
      obtain ⟨_, n, asked, after, still'⟩ := asks silent quiet
      have opened : Controller.openActivity (E := Clear.engine graphics) (H := WindowCall) support h =
          .ok () n := (bind_of_ok filled).trans asked
      have same : h.Still n :=
        Spans.trans (h.still_said .info greeting) (Spans.trans still (Spans.trans (m.still_said _ _) still'))
      refine ⟨{ n with active := true }, ?_, after, same.controller, same.window, rfl, same.screen⟩
      refine (get_bind _ h).trans ?_
      rw [active]
      exact bind_of_ok opened

theorem requestWindow_returns {opened : Bool} (smooth : h.Smooth settings opened) : ∃ h',
    requestWindow h = .ok (match h.windows.openWindow h.requested with
      | .error text => .error ((Failure.of text).within "failed to create window")
      | .ok () => .ok h.requested) h' ∧ h'.Smooth settings opened ∧ h.Still h' := by
  let asked : Host graphics :=
    { h with
      controller := { h.controller with
        session := h.controller.session.write
          (.host (.openWindow h.settings.title h.settings.width h.settings.height)) }
      requested := h.requested + 1 }
  have plain : (.host (.openWindow h.settings.title h.settings.width h.settings.height) :
      Entry (Clear.engine graphics) WindowCall).Plain := Entry.plain_of_unsaid rfl nofun
  refine ⟨asked, ?_, smooth.write rfl rfl ((calm_kept named opened).write plain smooth.under.2),
    ⟨rfl, rfl, rfl, rfl, rfl⟩, rfl, rfl, rfl⟩
  simp only [requestWindow, get_bind]
  cases h.windows.openWindow h.requested <;> rfl

/-- A size with an area begins a cycle, unless frames are rendered at it, or nothing of a cycle is left. -/
theorem renew_returns (smooth : h.Smooth settings true) {window : Clear.WindowId}
    (held : h.window = some window) (k : Conditions) {size : Extent} (area : size.isEmpty = false)
    (other : h.rendersAt size = false) :
    ∃ h', Handle.adopt k size h = .ok () h' ∧ h'.Smooth settings true ∧ Fitted window size h h' := by
  have unusable {m : Host graphics} (smooth : m.Smooth settings true) (error : GateError) :
      (m.said .error s!"surface unusable: {error.message}").Smooth settings true :=
    smooth_said named smooth (Entry.plain_of_start (by simp [Entry.starts, toString]))
  have fitted {h' : Host graphics} (same : h' = { h with controller := h'.controller })
      (ended : h.controller.ended = true → h'.controller.ended = true)
      (came : h'.controller.Down ∨
        h'.controller.ReadyWith size window ∧ h'.controller.cycles = h.controller.cycles + 1) :
      Fitted window size h h' :=
    ⟨same, fun empty => absurd empty (by simp [area]), fun _ still => absurd still (by simp [other]),
      fun _ _ => came, ended⟩
  cases ended : h.controller.ended with
  | true =>
      let line := s!"ordering violation in state {h.controller.stage.shown}: {Violation.adoptAfterEnd.message}"
      have smooth : (h.said .error line).Smooth settings true :=
        smooth.write rfl rfl (Kept.changed (.inr ⟨h.controller.stage, rfl⟩) smooth.under.2)
      have refused : onController (Controller.adopt k size window h.assets) h =
          .ok (.error (.ordering .adoptAfterEnd)) (h.said .error line) := by
        rw [onController, Controller.adopt_of_ended ended k size window h.assets]
        rfl
      have told := unusable smooth (.ordering .adoptAfterEnd)
      exact ⟨_, adopt_of_refused held k area other refused, told,
        fitted rfl (fun _ => ended) (.inl (told.down_of_ended ended))⟩
  | false =>
      obtain ⟨course, d, returned, after, adopts⟩ :=
        (calm_kept named true).adopt Kept.changed smooth ended k area window h.assets
      let m : Host graphics := { h with controller := d }
      have lasts {p : Prop} (isOver : h.controller.ended = true) : p := absurd isOver (by simp [ended])
      have adopted : onController (Controller.adopt k size window h.assets) h = .ok course.answer m := by
        rw [onController, returned]
      by_cases up : course = .up
      · subst up
        exact ⟨m, adopt_of_taken held k area other adopted, after,
          fitted rfl lasts (.inr ⟨(adopts.up rfl).2, adopts.cycles⟩)⟩
      · obtain ⟨error, answer⟩ := Course.exists_error up
        rw [answer] at adopted
        have told := unusable (m := m) after error
        have down := told.down (adopts.down up).not_ready
        exact ⟨_, adopt_of_refused held k area other adopted, told, fitted rfl lasts (.inl down)⟩

/-- What comes of a size, if there is a window. -/
theorem adopt_returns (smooth : h.Smooth settings true) {window : Clear.WindowId}
    (held : h.window = some window) (k : Conditions) (size : Extent) :
    ∃ h', Handle.adopt k size h = .ok () h' ∧ h'.Smooth settings true ∧ Fitted window size h h' := by
  cases area : size.isEmpty with
  | true =>
      have told : (h.said .debug "surface has no area; releasing it").Smooth settings true :=
        smooth_said named smooth (Entry.plain_of_level (by decide) (by decide))
      obtain ⟨_, h', returned, after, ⟨down, ended⟩, same⟩ :=
        passes_onController ((calm_kept named true).release k) _ told
      have absent {p : Prop} (some_area : size.isEmpty = false) : p := absurd some_area (by simp [area])
      exact ⟨h', (adopt_of_empty held k area).trans returned, after, same, fun _ => down, absent, absent,
        ended.trans⟩
  | false =>
      cases renders : h.rendersAt size with
      | true =>
          refine ⟨_, adopt_of_rendered held k area renders, smooth_said named smooth ?_, rfl, ?_, ?_, ?_, id⟩
          · exact Entry.plain_of_level (by decide) (by decide)
          · exact fun empty => absurd empty (by simp [area])
          · exact fun _ _ => rfl
          · exact fun _ other => absurd other (by simp [renders])
      | false => exact renew_returns named smooth held k area renders

/-- The end of the activity leaves nothing of a cycle. -/
theorem closeActivity_returns {opened : Bool} (smooth : h.Smooth settings opened) (k : Conditions) :
    ∃ h', Handle.closeActivity k h = .ok () h' ∧ h'.Smooth settings opened ∧
      h' = { h with controller := h'.controller } ∧ h'.controller.Down ∧ h'.controller.ended = true := by
  obtain ⟨d, returned, after, down, ended⟩ := (calm_kept named opened).closeActivity smooth k
  have closed : onController (Controller.closeActivity k) h = .ok (.ok ()) { h with controller := d } := by
    rw [onController, returned]
  exact ⟨_, bind_of_ok closed, after, rfl, down, ended⟩

end Returns
end Handle
end SurfaceGate.Desktop
