import SurfaceGate.Assets.Directory
import SurfaceGate.Desktop.Contacts
import SurfaceGate.Desktop.Settings
import SurfaceGate.Desktop.Window

/-!
The desktop host.

The host turns the events of the window system into reports for the controller. It has one window,
whose size decides: a size without area gives the surface up, the size that is bound already changes
nothing while frames are rendered, and any other size begins a bind cycle. Contacts of mouse and
fingers become batches of pointers.
-/

namespace SurfaceGate.Desktop

open Graphics (System)

structure Host (graphics : System) where
  settings : Settings
  files : FileSystem
  windows : WindowSystem
  screen : Screen
  controller : Controller (Clear.engine graphics) WindowCall
  window : Option Clear.WindowId
  requested : Nat
  active : Bool
  contacts : Contacts
  cursor : Input.Point

/-- Steps of the host; a panic keeps the host it leaves. -/
abbrev Handle (graphics : System) (α : Type) := EStateM Panic (Host graphics) α

variable {graphics : System}

def origin : Input.Point := ⟨.ofFloat32 0.0, .ofFloat32 0.0⟩

def Host.new (settings : Settings) (files : FileSystem) (windows : WindowSystem)
    (screen : Screen) : Host graphics where
  settings := settings
  files := files
  windows := windows
  screen := screen
  controller := Controller.new .new settings.rendering
  window := none
  requested := 0
  active := false
  contacts := .empty
  cursor := origin

def Host.assets (h : Host graphics) : AssetReader :=
  AssetDirectory.reader ⟨h.settings.assetRoot⟩ h.files

def Host.rendersAt (h : Host graphics) (size : Extent) : Bool :=
  h.controller.isOpen && h.controller.renders && h.controller.size = some size

namespace Handle

def onController {α : Type} (act : Control (Clear.engine graphics) WindowCall α) :
    Handle graphics α := fun h =>
  match act h.controller with
  | .ok a controller => .ok a { h with controller }
  | .error panic controller => .error panic { h with controller }

instance : MonadLift (Control (Clear.engine graphics) WindowCall) (Handle graphics) :=
  ⟨onController⟩

def log (level : Log.Level) (text : String) : Handle graphics Unit :=
  onController (Control.log level text)

def ask (request : WindowCall) : Handle graphics Unit :=
  onController (Control.onSession (Act.note (.host request)))

/-- Fills the screen, if the settings want that and it is not filled yet. -/
def fillScreen : Handle graphics Unit := do
  let h ← get
  if h.settings.immersive && !h.screen.filled then
    ask (.fillScreen true)
    modify fun h => { h with screen := { h.screen with filled := true } }

/-- What the controller may ask of the host. There is no sound to set up. -/
def support : HostSupport (Handle graphics) where
  fillScreen := fillScreen
  startSound := do
    log .info "no audio backend in the desktop host; running silent"
    return .ok ()

def requestWindow : Handle graphics (Except Failure Clear.WindowId) := do
  let h ← get
  modify ({ · with requested := h.requested + 1 })
  ask (.openWindow h.settings.title h.settings.width h.settings.height)
  match h.windows.openWindow h.requested with
  | .error text => return .error ((Failure.of text).within "failed to create window")
  | .ok () => return .ok h.requested

def needWindow : Handle graphics (Except Failure Clear.WindowId) := do
  match (← get).window with
  | some window => return .ok window
  | none =>
      match ← requestWindow with
      | .error why => return .error why
      | .ok window =>
          modify ({ · with window := some window })
          return .ok window

def adopt (k : Conditions) (size : Extent) : Handle graphics Unit := do
  let h ← get
  match h.window with
  | none => return
  | some window =>
      if size.isEmpty then
        log .debug "surface has no area; releasing it"
        onController (Controller.release k)
      else if h.rendersAt size then
        log .trace s!"surface already bound at {size.width}x{size.height}"
      else
        match ← onController (Controller.adopt k size window h.assets) with
        | .error error => log .error s!"surface unusable: {error.message}"
        | .ok () => return

/-- Ends the activity; an error is only noted. -/
def closeActivity (k : Conditions) : Handle graphics Unit := do
  match ← onController (Controller.closeActivity k) with
  | .error error => log .error error.message
  | .ok () => return

def openActivity : Handle graphics Unit := do
  if !(← get).active then
    Controller.openActivity (E := Clear.engine graphics) (H := WindowCall) support
    modify ({ · with active := true })

/-- The program has the screen. Without a window there is nothing to do on it. -/
def gain (k : Conditions) : Handle graphics Unit := do
  match ← needWindow with
  | .error why =>
      log .error why.message
      ask .endLoop
  | .ok _ =>
      openActivity
      onController Controller.expect
      adopt k (← get).screen.size

def handOn (k : Conditions) : Option Input.Motion → Handle graphics Unit
  | none => return
  | some motion => do
      let _ ← onController (Controller.motion k motion)

def follow (k : Conditions) (contact : Contact) (stroke : Stroke) (position : Input.Point) :
    Handle graphics Unit := do
  let contacts := (← get).contacts
  let (motion, contacts) :=
    match stroke with
    | .goesDown => contacts.goDown contact position
    | .moves => contacts.move contact position
    | .goesUp => contacts.goUp contact position
    | .isCancelled => contacts.cancel
  modify ({ · with contacts })
  handOn k motion

/-- The program loses the screen, and with it every contact and the surface. -/
def lose (k : Conditions) : Handle graphics Unit := do
  let (motion, contacts) := (← get).contacts.cancel
  modify ({ · with contacts })
  handOn k motion
  onController (Controller.release k)

/-- A position of the window system in single precision. -/
def position (x y : Float) : Input.Point :=
  ⟨.ofFloat32 x.toFloat32, .ofFloat32 y.toFloat32⟩

/-- A key goes down or up. A key without a code, or one that repeats, is nobody's business. -/
def press (k : Conditions) (code : Option Int) (down repeated : Bool) : Handle graphics Unit := do
  if !repeated then
    if let some code := code then
      let action := if down then Input.Code.keyDown else Input.Code.keyUp
      let _ ← onController (Controller.key k ⟨action, code⟩)

def event (k : Conditions) : WindowEvent → Handle graphics Unit
  | .gained => gain k
  | .lost => lose k
  | .leaving => do
      if !(← get).controller.ended then closeActivity k
  | .close => do
      closeActivity k
      modify ({ · with window := none })
      ask .endLoop
  | .sized size => adopt k size
  | .focus focused => do
      if (← get).window.isSome then Controller.focus support focused
  | .finger number stroke x y => follow k (.finger number) stroke (position x y)
  | .cursor x y => do
      modify ({ · with cursor := position x y })
      if (← get).contacts.isDown .mouse then follow k .mouse .moves (position x y)
  | .button down => do
      follow k .mouse (if down then .goesDown else .goesUp) (← get).cursor
  | .key code down repeated => press k code down repeated
  | .other => return

def start : Handle graphics Unit :=
  ask .waitForEvents

def discard (k : Conditions) : Handle graphics Unit :=
  onController (Controller.discard k)

end Handle

def WindowSystem.opened (windows : WindowSystem) : Except Failure Unit :=
  inContext "failed to create winit EventLoop" (windows.openLoop.mapError Failure.of)

def WindowSystem.closed (windows : WindowSystem) : Except Failure Unit :=
  inContext "winit event loop terminated with error" (windows.closeLoop.mapError Failure.of)

end SurfaceGate.Desktop
