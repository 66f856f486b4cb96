import SurfaceGate.Proofs.Contract
import SurfaceGate.Proofs.Desktop.Smooth

/-!
What host, controller and engine hold between two events of the window system.

Every event returns. Behind it the engine has a surface exactly if the controller is ready, and then the
three layers have the same window and the same size, the one that the host handled last. So no frame finds the
engine without a surface, and nothing is bound any more when the screen is lost or the activity is closed.
-/

namespace SurfaceGate.Desktop

/-- Events with which the surface goes. -/
def WindowEvent.parts : WindowEvent → Bool
  | .lost | .leaving | .close => true
  | _ => false

/-- Events with which the activity ends. -/
def WindowEvent.closes : WindowEvent → Bool
  | .leaving | .close => true
  | _ => false

theorem WindowEvent.parts_of_closes {event : WindowEvent} (closes : event.closes = true) :
    event.parts = true := by
  cases event with
  | leaving | close => rfl
  | gained | lost | sized | focus | finger | cursor | button | key | other => cases closes

variable {graphics : Graphics.System} {settings : RenderSettings}

theorem message_within (cause context : String) :
    ((Failure.of cause).within context).message = context ++ ": " ++ cause :=
  rfl

namespace Host

variable {h h' : Host graphics} {handled : Option Extent}

/-- Between two events: window and size of a cycle that is up are those of the host, and there is no window
before the activity is opened. -/
structure Firm (settings : RenderSettings) (handled : Option Extent) (h : Host graphics) : Prop where
  smooth : h.Smooth settings h.active
  windowless : h.active = false → h.window = none
  surface : h.controller.stage = .ready → h.controller.surface = h.window
  size : h.controller.stage = .ready → h.controller.size = handled

/-- A firm host is left, and an activity that is over stays so. -/
structure Onward (settings : RenderSettings) (handled : Option Extent) (h h' : Host graphics) : Prop where
  firm : h'.Firm settings handled
  ended : h.controller.ended = true → h'.controller.ended = true

theorem firm_of_down (smooth : h.Smooth settings h.active) (windowless : h.active = false → h.window = none)
    (down : h.controller.Down) : h.Firm settings handled where
  smooth := smooth
  windowless := windowless
  surface ready := absurd ready down.not_ready
  size ready := absurd ready down.not_ready

theorem Onward.trans {m : Host graphics} {before : Option Extent} (first : h.Onward settings before m)
    (second : m.Onward settings handled h') : h.Onward settings handled h' :=
  ⟨second.firm, second.ended ∘ first.ended⟩

theorem Firm.still (firm : h.Firm settings handled) (smooth : h'.Smooth settings h.active)
    (still : h.Still h') : h.Onward settings handled h' := by
  have same := still.controller
  refine ⟨⟨still.active.symm ▸ smooth, ?_, ?_, ?_⟩, same.ended.trans⟩
  · exact fun inactive => still.window.trans (firm.windowless (still.active.symm.trans inactive))
  · intro ready
    rw [same.surface, still.window]
    exact firm.surface (same.stage.symm.trans ready)
  · intro ready
    rw [same.size]
    exact firm.size (same.stage.symm.trans ready)

theorem Firm.stays (firm : h.Firm settings handled) {x : Handle graphics Unit}
    (stays : Handle.Stays settings h.active x) : ∃ h', x h = .ok () h' ∧ h.Onward settings handled h' := by
  obtain ⟨_, h', returned, after, still⟩ := stays h firm.smooth
  exact ⟨h', returned, firm.still after still⟩

theorem size_of_rendersAt {size : Extent} (renders : h.rendersAt size = true) :
    h.controller.size = some size := by
  simp only [rendersAt, Bool.and_eq_true, decide_eq_true_eq] at renders
  exact renders.2

theorem Fitted.firm {window : Clear.WindowId} {size : Extent} (fitted : Fitted window size h h')
    (smooth : h'.Smooth settings true) (active : h.active = true) (held : h.window = some window)
    (surface : h.controller.stage = .ready → h.controller.surface = h.window) :
    h'.Firm settings (some size) := by
  have active' : h'.active = true := by rw [fitted.same]; exact active
  have window' : h'.window = some window := by rw [fitted.same]; exact held
  have up (ready : h'.controller.stage = .ready) :
      h'.controller.surface = some window ∧ h'.controller.size = some size := by
    have fallen {p : Prop} (down : h'.controller.Down) : p := absurd ready down.not_ready
    cases area : size.isEmpty with
    | true => exact fallen (fitted.empty area)
    | false =>
        cases renders : h.rendersAt size with
        | true =>
            have same := fitted.kept area renders
            rw [same] at ready ⊢
            exact ⟨(surface ready).trans held, size_of_rendersAt renders⟩
        | false =>
            rcases fitted.renewed area renders with down | ⟨came, -⟩
            · exact fallen down
            · exact ⟨came.surface, came.size⟩
  refine ⟨active'.symm ▸ smooth, ?_, ?_, fun ready => (up ready).2⟩
  · exact fun inactive => nomatch active'.symm.trans inactive
  · exact fun ready => (up ready).1.trans window'.symm

theorem Firm.active_of_window (firm : h.Firm settings handled) {window : Clear.WindowId}
    (held : h.window = some window) : h.active = true := by
  cases active : h.active with
  | true => rfl
  | false => exact nomatch (firm.windowless active).symm.trans held

/-- A host without a window has nothing of a cycle. -/
theorem Firm.down (firm : h.Firm settings handled) (windowless : h.window = none) : h.controller.Down := by
  refine firm.smooth.down fun ready => ?_
  have up := firm.smooth.agrees.surface_iff.mpr ready
  rw [firm.surface ready, windowless] at up
  cases up

/-- Whether there is a window, or the window system makes one. -/
def obtains (h : Host graphics) : Bool :=
  h.window.isSome || (h.windows.openWindow h.requested).isOk

/-- The size that the host fits a surface to: that of the window that it gains, or the one that it is told. -/
def handles (h : Host graphics) : Happening → Option Extent
  | .event _ .gained => if h.obtains then some h.screen.size else none
  | .event _ (.sized size) => some size
  | _ => none

section Events

variable (named : ∀ cycle, settings.startPanic? cycle = none)
include named

theorem Firm.sized (firm : h.Firm settings handled) (k : Conditions) (size : Extent) :
    ∃ h', Handle.event k (.sized size) h = .ok () h' ∧ h.Onward settings (some size) h' := by
  cases held : h.window with
  | none =>
      refine ⟨h, Handle.adopt_of_windowless held k size, ?_, id⟩
      exact firm_of_down firm.smooth firm.windowless (firm.down held)
  | some window =>
      have active := firm.active_of_window held
      obtain ⟨h', returned, after, fitted⟩ := Handle.adopt_returns named (active ▸ firm.smooth) held k size
      exact ⟨h', returned, fitted.firm after active held firm.surface, fitted.ended⟩

/-- With a window the activity is opened, if it was not, and the surface has the size of the window. -/
theorem enters (smooth : h.Smooth settings h.active) {window : Clear.WindowId} (held : h.window = some window)
    (surface : h.controller.stage = .ready → h.controller.surface = h.window) (k : Conditions) :
    ∃ h', (do
      Handle.openActivity
      Handle.onController Controller.expect
      Handle.adopt k (← get).screen.size : Handle graphics Unit) h = .ok () h' ∧
      h.Onward settings (some h.screen.size) h' := by
  obtain ⟨m, opened, after, still⟩ := Handle.openActivity_returns named smooth
  have expecting : Handle.Stays settings true (Handle.onController Controller.expect : Handle graphics Unit) :=
    .log named (Entry.plain_of_start (by decide))
  obtain ⟨_, n, expected, after, still'⟩ := expecting m after
  have same : Still { h with active := true } n := Spans.trans still still'
  have held' : n.window = some window := same.window.trans held
  have surface' : n.controller.stage = .ready → n.controller.surface = n.window := by
    intro ready
    rw [same.controller.surface, same.window]
    exact surface (same.controller.stage.symm.trans ready)
  obtain ⟨h', returned, after, fitted⟩ := Handle.adopt_returns named after held' k n.screen.size
  refine ⟨h', ?_, same.screen ▸ fitted.firm after same.active held' surface', ?_⟩
  · exact (bind_of_ok opened).trans ((bind_of_ok expected).trans returned)
  · exact fitted.ended ∘ same.controller.ended.trans

theorem Firm.gain_refused (firm : h.Firm settings handled) (windowless : h.window = none) {text : String}
    (refused : h.windows.openWindow h.requested = .error text) (k : Conditions) :
    ∃ h', Handle.event k .gained h = .ok () h' ∧ h.Onward settings handled h' := by
  obtain ⟨m, requested, after, still⟩ := Handle.requestWindow_returns named firm.smooth
  rw [refused] at requested
  have before := firm.still after still
  have told : Handle.Stays settings m.active (do
      Handle.log .error ((Failure.of text).within "failed to create window").message
      Handle.ask .endLoop : Handle graphics Unit) := by
    refine .bind (Handle.Stays.log named (Entry.plain_of_start ?_)) fun _ => Handle.Stays.ask named _
    rw [message_within]
    simp [Entry.starts]
  obtain ⟨h', returned, behind⟩ := before.firm.stays told
  have needed := Handle.needWindow_of_refused windowless requested
  exact ⟨h', (bind_of_ok needed).trans returned, before.trans behind⟩

theorem Firm.gain_made (firm : h.Firm settings handled) (windowless : h.window = none)
    (made : h.windows.openWindow h.requested = .ok ()) (k : Conditions) :
    ∃ h', Handle.event k .gained h = .ok () h' ∧ h.Onward settings (some h.screen.size) h' := by
  obtain ⟨m, requested, after, still⟩ := Handle.requestWindow_returns named firm.smooth
  rw [made] at requested
  let there : Host graphics := { m with window := some h.requested }
  have idle (ready : there.controller.stage = .ready) : there.controller.surface = there.window :=
    absurd (still.controller.stage.symm.trans ready) (firm.down windowless).not_ready
  have smooth : there.Smooth settings there.active := still.active.symm ▸ after
  obtain ⟨h', returned, onward⟩ := enters named smooth rfl idle k
  have needed := Handle.needWindow_of_made windowless requested
  refine ⟨h', (bind_of_ok needed).trans returned, still.screen ▸ onward.firm, ?_⟩
  exact onward.ended ∘ still.controller.ended.trans

theorem Firm.gain (firm : h.Firm settings handled) (k : Conditions) :
    ∃ h', Handle.event k .gained h = .ok () h' ∧
      h.Onward settings ((h.handles (.event k .gained)).or handled) h' := by
  cases held : h.window with
  | some window =>
      have obtained : h.handles (.event k .gained) = some h.screen.size := by
        simp [handles, obtains, held]
      obtain ⟨h', returned, onward⟩ := enters named firm.smooth held firm.surface k
      exact ⟨h', (bind_of_ok (Handle.needWindow_of_window held)).trans returned, obtained ▸ onward⟩
  | none =>
      cases opens : h.windows.openWindow h.requested with
      | error text =>
          have unhandled : h.handles (.event k .gained) = none := by
            simp [handles, obtains, held, opens, Except.isOk, Except.toBool]
          rw [unhandled]
          exact firm.gain_refused named held opens k
      | ok _ =>
          have obtained : h.handles (.event k .gained) = some h.screen.size := by
            simp [handles, obtains, opens, Except.isOk, Except.toBool]
          rw [obtained]
          exact firm.gain_made named held opens k

/-- Before the surface goes, every contact is lifted. -/
theorem Firm.lose (firm : h.Firm settings handled) (k : Conditions) :
    ∃ h', Handle.event k .lost h = .ok () h' ∧ h.Onward settings handled h' ∧ h'.controller.Down := by
  let emptied : Host graphics := { h with contacts := h.contacts.cancel.2 }
  obtain ⟨_, m, handed, after, still⟩ :=
    Handle.Stays.handOn named k h.contacts.cancel.1 emptied firm.smooth
  obtain ⟨_, h', released, after, ⟨down, ended⟩, same⟩ :=
    Handle.passes_onController ((calm_kept named h.active).release k) m after
  have active : h'.active = h.active := by rw [same]; exact still.active
  have window : h'.window = h.window := by rw [same]; exact still.window
  refine ⟨h', (bind_of_ok handed).trans released, ⟨?_, fun isOver => ?_⟩, down⟩
  · refine firm_of_down (active.symm ▸ after) (fun inactive => ?_) down
    exact window.trans (firm.windowless (active.symm.trans inactive))
  · exact ended.trans (still.controller.ended.trans isOver)

theorem Firm.leave (firm : h.Firm settings handled) (k : Conditions) :
    ∃ h', Handle.event k .leaving h = .ok () h' ∧ h.Onward settings handled h' ∧ h'.controller.Down ∧
      h'.controller.ended = true := by
  cases ended : h.controller.ended with
  | true =>
      refine ⟨h, ?_, ⟨firm, id⟩, firm.smooth.down_of_ended ended, ended⟩
      refine (get_bind _ h).trans ?_
      rw [ended]
      rfl
  | false =>
      obtain ⟨h', returned, after, same, down, isOver⟩ := Handle.closeActivity_returns named firm.smooth k
      refine ⟨h', ?_, ⟨?_, fun _ => isOver⟩, down, isOver⟩
      · refine (get_bind _ h).trans ?_
        rw [ended]
        exact returned
      · rw [same] at after down ⊢
        exact firm_of_down after firm.windowless down

theorem Firm.close (firm : h.Firm settings handled) (k : Conditions) :
    ∃ h', Handle.event k .close h = .ok () h' ∧ h.Onward settings handled h' ∧ h'.controller.Down ∧
      h'.controller.ended = true := by
  obtain ⟨m, returned, after, same, down, isOver⟩ := Handle.closeActivity_returns named firm.smooth k
  let left : Host graphics := { m with window := none }
  have shut : left.Firm settings handled := by
    have active : left.active = h.active := by rw [show left.active = m.active from rfl, same]
    exact firm_of_down (active.symm ▸ after) (fun _ => rfl) down
  obtain ⟨h', asked, onward⟩ := shut.stays (Handle.Stays.ask named .endLoop)
  have ended := onward.ended isOver
  refine ⟨h', (bind_of_ok returned).trans asked, ⟨onward.firm, fun _ => ended⟩, ?_, ended⟩
  exact onward.firm.smooth.down_of_ended ended

theorem Firm.parts (firm : h.Firm settings handled) (k : Conditions) {event : WindowEvent}
    (parts : event.parts = true) : ∃ h', Handle.event k event h = .ok () h' ∧ h.Onward settings handled h' ∧
      h'.controller.Down ∧ (event.closes = true → h'.controller.ended = true) := by
  cases event with
  | lost =>
      obtain ⟨h', returned, onward, down⟩ := firm.lose named k
      exact ⟨h', returned, onward, down, nofun⟩
  | leaving =>
      obtain ⟨h', returned, onward, down, ended⟩ := firm.leave named k
      exact ⟨h', returned, onward, down, fun _ => ended⟩
  | close =>
      obtain ⟨h', returned, onward, down, ended⟩ := firm.close named k
      exact ⟨h', returned, onward, down, fun _ => ended⟩
  | gained | sized | focus | finger | cursor | button | key | other => cases parts

/-- Every event returns with a firm host. -/
theorem Firm.event (firm : h.Firm settings handled) (k : Conditions) (event : WindowEvent) :
    ∃ h', Handle.event k event h = .ok () h' ∧
      h.Onward settings ((h.handles (.event k event)).or handled) h' := by
  have parted {event : WindowEvent} (parts : event.parts = true) :
      ∃ h', Handle.event k event h = .ok () h' ∧ h.Onward settings handled h' := by
    obtain ⟨h', returned, onward, -⟩ := firm.parts named k parts
    exact ⟨h', returned, onward⟩
  cases event with
  | gained => exact firm.gain named k
  | sized size => exact firm.sized named k size
  | lost | leaving | close => exact parted rfl
  | focus focused => exact firm.stays (.focus named k focused)
  | finger number stroke x y => exact firm.stays (.follow named k _ _ _)
  | cursor x y => exact firm.stays (.cursor named k x y)
  | button down => exact firm.stays (.read fun _ => Handle.Stays.follow named k _ _ _)
  | key code down repeated => exact firm.stays (.press named k code down repeated)
  | other => exact firm.stays (.pure ())

theorem Firm.happened (firm : h.Firm settings handled) (happening : Happening) :
    h.Onward settings ((h.handles happening).or handled) (h.happened happening) := by
  cases happening with
  | event k event =>
      obtain ⟨h', returned, onward⟩ := firm.event named k event
      rwa [Host.happened, returned]
  | worked steps =>
      have rested := firm.smooth.rested (calm_kept named h.active).toUpheld steps
      exact ⟨⟨rested, firm.windowless, firm.surface, firm.size⟩, id⟩
  | changed screen => exact ⟨⟨firm.smooth, firm.windowless, firm.surface, firm.size⟩, id⟩

end Events

theorem firm_new (settings : Settings) (files : FileSystem) (windows : WindowSystem) (screen : Screen) :
    (new settings files windows screen : Host graphics).Firm settings.rendering none where
  smooth := ⟨Controller.sound_new _ _, .inl rfl, rfl, Clear.faithful_new, fun _ none_made => nomatch none_made⟩
  windowless _ := rfl
  surface := nofun
  size := nofun

/-- The size that was handled last when all this has happened. -/
def lastHandled (h : Host graphics) (before : Option Extent) : List Happening → Option Extent
  | [] => before
  | happening :: later => (h.happened happening).lastHandled ((h.handles happening).or before) later

theorem Firm.run (named : ∀ cycle, settings.startPanic? cycle = none)
    (firm : h.Firm settings handled) (happenings : List Happening) :
    h.Onward settings (h.lastHandled handled happenings) (h.run happenings) := by
  induction happenings generalizing h handled with
  | nil => exact ⟨firm, id⟩
  | cons happening later ih =>
      have first := firm.happened named happening
      exact first.trans (ih first.firm)

/-- The state of the engine. -/
def drawing (h : Host graphics) : Clear.State :=
  h.controller.session.gate.engine

def calls (h : Host graphics) : List (CallRecord (Clear.engine graphics)) :=
  h.controller.session.journal.calls

/-- A surface is bound: its window and its size are the same everywhere. -/
structure Bound (h : Host graphics) (handled : Option Extent) : Prop where
  device : h.drawing.device = true
  window : ∃ window, h.window = some window ∧ h.controller.surface = some window ∧
    latest Call.isAttach h.calls = some (.attach (some window), .ok)
  size : ∃ size, size.isEmpty = false ∧ handled = some size ∧ h.controller.size = some size ∧
    h.drawing.size = size

/-- What host, controller and engine agree on between two events. -/
structure Holds (h : Host graphics) (handled : Option Extent) : Prop where
  settled : h.controller.stage = .idle ∨ h.controller.stage = .ready
  open_iff : h.controller.isOpen = true ↔ h.controller.stage = .ready
  surface_iff : h.drawing.surface.isSome = true ↔ h.controller.stage = .ready
  bound : h.controller.stage = .ready → h.Bound handled
  prepared : ∀ record ∈ h.calls, ∀ size, record.call = .prepare size → size.isEmpty = false
  initialized : ∀ record ∈ h.calls, record.outcome ≠ .failed Clear.uninitialized
  drawn : ∀ record ∈ h.calls, record.outcome ≠ .failed Clear.unbound
  introduced : h.controller.session.journal.Introduced

theorem Firm.surface_iff (firm : h.Firm settings handled) :
    h.drawing.surface.isSome = true ↔ h.controller.stage = .ready := by
  have faithful := firm.smooth.under.2.1
  refine ⟨fun held => firm.smooth.agrees.bound_iff.mp (faithful.bound held).1, fun ready => ?_⟩
  obtain ⟨window, size, -, -, earlier, last⟩ := (firm.smooth.sound.outline.live ready).last
  exact faithful.taken window _ ((Journal.lifecycleOf_calls _).trans last)

theorem Firm.bound (firm : h.Firm settings handled) (ready : h.controller.stage = .ready) :
    h.Bound handled := by
  have faithful := firm.smooth.under.2.1
  have agrees := firm.smooth.agrees
  have up := agrees.up ready
  obtain ⟨window, held⟩ := Option.isSome_iff_exists.mp (agrees.surface_iff.mpr ready)
  obtain ⟨size, sized, last⟩ := up.size
  refine ⟨faithful.device_iff.mpr up.prepared, ⟨window, ?_, held, held ▸ up.surface⟩, size, ?_, ?_, sized, ?_⟩
  · exact (firm.surface ready).symm.trans held
  · obtain ⟨record, made, same⟩ := Option.map_eq_some_iff.mp last
    exact faithful.fits record (List.mem_of_find?_eq_some made) size (congrArg Prod.fst same)
  · exact (firm.size ready).symm.trans sized
  · exact faithful.size size last

theorem Firm.holds (firm : h.Firm settings handled) : h.Holds handled where
  settled := firm.smooth.settled
  open_iff := firm.smooth.agrees.open_iff
  surface_iff := firm.surface_iff
  bound := firm.bound
  prepared := firm.smooth.under.2.1.fits
  initialized := firm.smooth.under.2.1.initialized
  drawn record made failed := by
    have obeys : Obeys h.calls := obeys_of_lawful firm.smooth.sound.outline.lawful firm.smooth.sound.gated.frames
    obtain ⟨newer, older, calls⟩ := List.append_of_mem made
    have suffix : record :: older <:+ h.calls := ⟨newer, calls.symm⟩
    obtain ⟨renders, unserved⟩ := firm.smooth.under.2.1.drawn record older suffix failed
    obtain ⟨window, size, earlier, last⟩ := obeys.served record older suffix (by rw [renders]; rfl)
    exact unserved window _ last
  introduced := firm.smooth.under.2.2.introduced

/-- What a size with an area comes to. -/
structure Resizes (h : Host graphics) : Prop where
  same : ∀ k size, h.controller.size = some size → h.controller.renders = true →
    Handle.event k (.sized size) h =
      .ok () (h.said .trace s!"surface already bound at {size.width}x{size.height}")
  other : ∀ k size, size.isEmpty = false → ¬(h.controller.size = some size ∧ h.controller.renders = true) →
    ∃ h', Handle.event k (.sized size) h = .ok () h' ∧ (h'.controller.Down ∨ ∃ window,
      h.window = some window ∧ h'.controller.ReadyWith size window ∧
        h'.controller.cycles = h.controller.cycles + 1)

theorem Firm.resizes (named : ∀ cycle, settings.startPanic? cycle = none) (firm : h.Firm settings handled) :
    h.Resizes where
  same k size sized renders := by
    have agrees := firm.smooth.agrees
    have ready := agrees.size_iff.mp (by rw [sized]; rfl)
    obtain ⟨-, ⟨window, held, -⟩, ⟨fitted, area, -, sized', -⟩⟩ := firm.bound ready
    obtain rfl := Option.some.inj (sized.symm.trans sized')
    refine Handle.adopt_of_rendered held k area ?_
    simp [rendersAt, agrees.open_iff.mpr ready, renders, sized]
  other k size area new := by
    cases held : h.window with
    | none =>
        exact ⟨h, Handle.adopt_of_windowless held k size, .inl (firm.down held)⟩
    | some window =>
        have active := firm.active_of_window held
        obtain ⟨h', returned, -, fitted⟩ := Handle.adopt_returns named (active ▸ firm.smooth) held k size
        refine ⟨h', returned, (fitted.renewed area ?_).imp_right fun came => ⟨window, rfl, came⟩⟩
        simp only [rendersAt, Bool.and_eq_false_iff, decide_eq_false_iff_not]
        by_cases sized : h.controller.size = some size
        · exact .inl (.inr (Bool.eq_false_iff.mpr fun renders => new ⟨sized, renders⟩))
        · exact .inr sized

/-- What is left when the screen is lost or the activity is closed. Only the screen may come back. -/
structure Ends (h : Host graphics) : Prop where
  gone : ∀ k event, event.parts = true →
    ∃ h', Handle.event k event h = .ok () h' ∧ h'.controller.Down ∧ h'.drawing.surface = none
  ended : ∀ k event, event.closes = true → ∀ later,
    ((h.happened (.event k event)).run later).controller.Down ∧
      ((h.happened (.event k event)).run later).drawing.surface = none ∧
      ((h.happened (.event k event)).run later).drawing.device = false

theorem Firm.surface_eq_none (firm : h.Firm settings handled) (down : h.controller.Down) :
    h.drawing.surface = none := by
  refine Option.not_isSome_iff_eq_none.mp fun held => ?_
  exact down.not_ready (firm.surface_iff.mp held)

theorem Firm.ends (named : ∀ cycle, settings.startPanic? cycle = none) (firm : h.Firm settings handled) :
    h.Ends where
  gone k event parts := by
    obtain ⟨h', returned, onward, down, -⟩ := firm.parts named k parts
    exact ⟨h', returned, down, onward.firm.surface_eq_none down⟩
  ended k event closes later := by
    obtain ⟨h', returned, onward, -, ended⟩ := firm.parts named k (WindowEvent.parts_of_closes closes)
    have ended := ended closes
    have left : h.happened (.event k event) = h' := congrArg stateOf returned
    rw [left]
    have onward := onward.firm.run named later
    have isOver := onward.ended ended
    have down := onward.firm.smooth.down_of_ended isOver
    refine ⟨down, onward.firm.surface_eq_none down, Bool.eq_false_iff.mpr fun device => ?_⟩
    have unprepared := (onward.firm.smooth.agrees.ended isOver).2
    exact unprepared (onward.firm.smooth.under.2.1.device_iff.mp device)

/-- After any events, however window system, graphics system and threads behave, host, controller and engine
agree on what is bound, and every further event returns. -/
theorem run_holds (vars : Variables) (files : FileSystem) (windows : WindowSystem) (screen : Screen)
    (happenings : List Happening) :
    let start : Host graphics := new (.ofVariables vars) files windows screen
    let left := start.run happenings
    left.Holds (start.lastHandled none happenings) ∧ (∀ k event, Returns (Handle.event k event left)) ∧
      left.Resizes ∧ left.Ends := by
  intro start left
  have named := Settings.startPanic_ofVariables vars
  have fresh : start.Firm (Settings.ofVariables vars).rendering none := firm_new _ files windows screen
  have firm := (fresh.run named happenings).firm
  refine ⟨firm.holds, fun k event => ?_, firm.resizes named, firm.ends named⟩
  obtain ⟨h', returned, -⟩ := firm.event named k event
  rw [returned]
  trivial

/-- The window is gained and then takes another size. -/
example :
    let start : Host ⟨fun _ => .ok "adapter", fun _ => .ok (), fun _ => .ok ⟨[.bgra8UnormSrgb], [.solid]⟩,
        fun _ => .ok⟩ :=
      new .default ⟨.emptyDirectory⟩ ⟨.ok (), fun _ => .ok (), .ok ()⟩ ⟨⟨1280, 720⟩, false⟩
    let left := start.run [.event .calm .gained, .event .calm (.sized ⟨800, 600⟩)]
    left.controller.stage = .ready ∧ left.drawing.size = ⟨800, 600⟩ := by
  decide +kernel

end Host
end SurfaceGate.Desktop
