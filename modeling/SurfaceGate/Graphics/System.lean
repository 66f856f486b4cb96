import SurfaceGate.Engine.Contract

/-!
The graphics system as a program sees it.

A program asks for an adapter, for a device on it, for surfaces, and for one frame after another.
The system may answer each request as it likes, so it is given by its answers to the first request
of a kind, the second, and so on.
-/

namespace SurfaceGate.Graphics

inductive TextureFormat where
  | bgra8UnormSrgb
  | rgba8UnormSrgb
  | bgra8Unorm
  | rgba8Unorm
  | rgba16Float
  deriving DecidableEq, Repr

def TextureFormat.name : TextureFormat → String
  | .bgra8UnormSrgb => "Bgra8UnormSrgb"
  | .rgba8UnormSrgb => "Rgba8UnormSrgb"
  | .bgra8Unorm => "Bgra8Unorm"
  | .rgba8Unorm => "Rgba8Unorm"
  | .rgba16Float => "Rgba16Float"

inductive AlphaMode where
  | auto
  | solid
  | preMultiplied
  deriving DecidableEq, Repr

def AlphaMode.name : AlphaMode → String
  | .auto => "Auto"
  | .solid => "Opaque"
  | .preMultiplied => "PreMultiplied"

/-- What came of a request for the next frame of a surface. -/
inductive Acquisition where
  | ok
  | timeout
  | outdated
  | lost
  | outOfMemory
  | other
  deriving DecidableEq, Repr

inductive PowerPreference where
  | lowPower
  | highPerformance
  deriving DecidableEq, Repr

def PowerPreference.name : PowerPreference → String
  | .lowPower => "LowPower"
  | .highPerformance => "HighPerformance"

inductive PresentMode where
  | immediate
  | fifo
  deriving DecidableEq, Repr

def PresentMode.name : PresentMode → String
  | .immediate => "Immediate"
  | .fifo => "Fifo"

structure Abilities where
  formats : List TextureFormat
  alphaModes : List AlphaMode
  deriving DecidableEq, Repr

structure Configuration where
  format : TextureFormat
  width : UInt32
  height : UInt32
  alphaMode : AlphaMode
  presentMode : PresentMode
  /-- Most frames under way. -/
  latency : Nat
  deriving DecidableEq, Repr

structure Color where
  red : Float
  green : Float
  blue : Float
  alpha : Float

inductive Request where
  | adapter (power : PowerPreference) (fallback : Bool)
  | device (label : String)
  | surface
  | configure (configuration : Configuration)
  | acquire (outcome : Acquisition)
  | clear (color : Color)
  | submit
  | present

/-- The answers of a graphics system to the requests of each kind, counted from zero. -/
structure System where
  adapter : Nat → Except String String
  device : Nat → Except String Unit
  surface : Nat → Except String Abilities
  acquire : Nat → Acquisition

/-- How many requests of each kind there were. -/
structure Usage where
  adapters : Nat
  devices : Nat
  surfaces : Nat
  acquisitions : Nat
  deriving DecidableEq, Repr

def Usage.none : Usage := ⟨0, 0, 0, 0⟩

inductive Recovery where
  | configuredAnew
  | passOver
  | giveUp
  deriving DecidableEq, Repr

def Recovery.shown : Recovery → String
  | .configuredAnew => "Reconfigured"
  | .passOver => "Skip"
  | .giveUp => "Fatal"

/-- What to do about an acquisition; nothing if it brought a frame. -/
def Acquisition.recovery? : Acquisition → Option Recovery
  | .ok => none
  | .lost | .outdated => some .configuredAnew
  | .outOfMemory => some .giveUp
  | .timeout | .other => some .passOver

/-- The formats that are taken if a surface has them, best first. -/
def preferredFormats : List TextureFormat :=
  [.bgra8UnormSrgb, .rgba8UnormSrgb]

def Abilities.format? (a : Abilities) : Option TextureFormat :=
  (preferredFormats.find? a.formats.contains).or a.formats.head?

def Abilities.alphaMode (a : Abilities) : AlphaMode :=
  a.alphaModes.head?.getD .auto

/-- The configuration of a surface with a size; an empty side becomes one pixel. -/
def configurationFor (format : TextureFormat) (alphaMode : AlphaMode) (size : Extent) :
    Configuration where
  format := format
  width := max size.width 1
  height := max size.height 1
  alphaMode := alphaMode
  presentMode := .fifo
  latency := 2

end SurfaceGate.Graphics
