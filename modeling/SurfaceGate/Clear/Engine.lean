import SurfaceGate.Clear.Color

/-!
An engine that clears the window to a colour, frame by frame.

The first preparation reads the base colour and takes a device; later ones only note the size. A
frame that the graphics system withholds is skipped and counted all the same, and a surface that is
lost or outdated is configured anew on the way. Only a lack of memory is a failure.
-/

namespace SurfaceGate.Clear

open Graphics

/-- Windows by the order in which they were made. -/
abbrev WindowId := Nat

structure State where
  device : Bool
  /-- The surface that it draws on, by its configuration. -/
  surface : Option Configuration
  size : Extent
  base : Rgb
  frame : UInt64
  fingers : Nat
  /-- Place of the last touch, as parts of the size. -/
  spot : Input.Point
  usage : Usage

def half : Input.Coordinate := .ofFloat32 0.5

def State.new : State where
  device := false
  surface := none
  size := ⟨0, 0⟩
  base := defaultBase
  frame := 0
  fingers := 0
  spot := ⟨half, half⟩
  usage := .none

def State.color (e : State) : Color :=
  shade e.base e.frame e.fingers e.spot

def colorAsset : String := "clear_color.txt"

def greeting : String := "ember clear engine v0.1.0"

abbrev Draw (α : Type) := Work State Request α

variable (system : System)

def openDevice : Draw Unit := do
  let usage := (← Work.state).usage
  Work.act (.adapter .highPerformance false)
  Work.update ({ · with usage := { usage with adapters := usage.adapters + 1 } })
  match system.adapter usage.adapters with
  | .error text => Work.fail ((Failure.of text).within "failed to find a suitable GPU adapter")
  | .ok name =>
      Work.act (.device "ember device")
      Work.update fun e => { e with usage := { e.usage with devices := usage.devices + 1 } }
      match system.device usage.devices with
      | .error text => Work.fail ((Failure.of text).within "failed to create wgpu device/queue")
      | .ok () => Work.log .info s!"gpu adapter: {name}"

/-- The base colour of the assets, or the default if there is none. -/
def chooseBase (assets : AssetReader) : Draw Rgb := do
  match assets.read colorAsset with
  | .error why =>
      Work.log .debug s!"{colorAsset} not loaded ({why.message}); using default"
      return defaultBase
  | .ok bytes =>
      match readColor bytes with
      | .error why => Work.fail (why.within s!"invalid {colorAsset}")
      | .ok base => return base

def prepare (assets : AssetReader) (size : Extent) : Draw Unit := do
  if size.isEmpty then
    Work.fail (.of s!"cannot initialize for a {size.width}x{size.height} surface")
  else
    Work.update ({ · with size })
    if (← Work.state).device then
      Work.log .debug s!"engine already initialized; new size {size.width}x{size.height}"
    else
      let base ← chooseBase assets
      Work.update ({ · with base })
      openDevice system
      Work.update ({ · with device := true })
      Work.log .info s!"engine initialized: {size.width}x{size.height}"

def openSurface : Draw Configuration := do
  let e ← Work.state
  Work.act .surface
  Work.update ({ · with usage := { e.usage with surfaces := e.usage.surfaces + 1 } })
  match system.surface e.usage.surfaces with
  | .error text => Work.fail ((Failure.of text).within "failed to create wgpu surface")
  | .ok abilities =>
      match abilities.format? with
      | none => Work.fail (.of "no supported surface formats")
      | some format =>
          let configuration := configurationFor format abilities.alphaMode e.size
          Work.act (.configure configuration)
          return configuration

/-- The old surface goes first: a window backs one surface at a time. -/
def attach (window : Option WindowId) : Draw Unit := do
  Work.update ({ · with surface := none })
  match window with
  | none => Work.log .info "surface cleared"
  | some _ =>
      if (← Work.state).device then
        let configuration ← openSurface system
        Work.log .info s!"surface set: ({configuration.width}, {configuration.height})"
        Work.update ({ · with surface := some configuration })
      else Work.fail (.of "engine not initialized")

/-- Clears the next frame of a surface and shows it. Answers what to do if no frame came. -/
def clearNext (configuration : Configuration) (color : Color) : Draw (Option Recovery) := do
  let usage := (← Work.state).usage
  let acquisition := system.acquire usage.acquisitions
  Work.act (.acquire acquisition)
  Work.update ({ · with usage := { usage with acquisitions := usage.acquisitions + 1 } })
  match acquisition.recovery? with
  | none =>
      Work.act (.clear color)
      Work.act .submit
      Work.act .present
      return none
  | some .configuredAnew =>
      Work.act (.configure configuration)
      return some .configuredAnew
  | some recovery => return some recovery

def countFrame : Draw Unit :=
  Work.update fun e => { e with frame := e.frame + 1 }

def render : Draw Unit := do
  let e ← Work.state
  match e.device, e.surface with
  | true, some configuration =>
      match ← clearNext system configuration e.color with
      | none => countFrame
      | some .giveUp => Work.fail (.of "surface out of memory")
      | some recovery =>
          Work.log .debug s!"frame {e.frame} skipped: {recovery.shown}"
          countFrame
  | _, _ => Work.fail (.of "render without a bound surface")

def part (x : Input.Coordinate) (side : UInt32) : Input.Coordinate :=
  let quotient := x.toFloat32 / (max side 1).toFloat32
  .ofFloat32 (if quotient < 0.0 then 0.0 else if 1.0 < quotient then 1.0 else quotient)

def fingersAfter (fingers : Nat) : Input.TouchChange → Nat
  | .down => fingers + 1
  | .up => fingers - 1
  | .move => fingers

def input : Input.Event → State → State × List (Deed Request)
  | .touch action pointer position, e =>
      let text := s!"touch {action.shown} pointer {pointer} at "
        ++ s!"({position.x.tenths}, {position.y.tenths})"
      let spot := ⟨part position.x e.size.width, part position.y e.size.height⟩
      ({ e with fingers := fingersAfter e.fingers action, spot }, [.logged ⟨.trace, text⟩])
  | .key .down code, e => (e, [.logged ⟨.debug, s!"key down {code}"⟩])
  | .key .up _, e => (e, [])

def finish (e : State) : State × List (Deed Request) :=
  ({ e with surface := none, device := false },
    [.logged ⟨.info, s!"engine destroyed after {e.frame} frames"⟩])

def engine : Engine where
  State := State
  Surface := WindowId
  Effect := Request
  greeting _ := greeting
  prepare := prepare system
  attach := attach system
  render := render system
  input := input
  finish := finish

end SurfaceGate.Clear
