import SurfaceGate.Decimal.Whole
import SurfaceGate.Log.Setup
import SurfaceGate.Text.Blank
import SurfaceGate.Text.Quoted
import SurfaceGate.Worker.Settings

/-!
Settings of the desktop host.

Six variables of the environment change a setting each; all others keep their defaults. A flag is on
for `1`, `true`, `yes` and `on` in any mix of cases and off for everything else. A number that is
not a whole one below `2 ^ 64` is complained about and changes nothing. Blanks around flags and
numbers do not count.
-/

namespace SurfaceGate.Desktop

structure Settings where
  title : String
  width : Float
  height : Float
  assetRoot : String
  /-- Whether the window fills the screen when the host is asked for immersion. -/
  immersive : Bool
  rendering : RenderSettings
  logging : Log.Settings

/-- The environment: the values of its variables by name. -/
abbrev Variables := String → Option String

namespace Settings

def default : Settings where
  title := "ember"
  width := 1280.0
  height := 720.0
  assetRoot := "assets"
  immersive := false
  rendering := .default
  logging := .default

def assetsVariable : String := "EMBER_ASSETS"
def immersiveVariable : String := "EMBER_IMMERSIVE"
def frameVariable : String := "EMBER_FRAME_MS"
def heartbeatVariable : String := "EMBER_HEARTBEAT"
def logVariable : String := "EMBER_LOG"
def tagVariable : String := "EMBER_LOG_TAG"

def readFlag (value : String) : Bool :=
  ["1", "true", "yes", "on"].contains ((Text.trim value).map Char.toLower)

def readNumber (value : String) : Option Nat :=
  Decimal.readWhole (Nat.pow 2 64) (Text.trimmed value.toList)

def complaint (name value : String) : String :=
  s!"ignoring {name}={Text.quoted value}: not a whole number"

/-- The complaint about a variable whose value should be a number, if there is cause. -/
def complaintAbout (vars : Variables) (name : String) : List String :=
  match vars name with
  | none => []
  | some value => if (readNumber value).isNone then [complaint name value] else []

def renderingOf (vars : Variables) : RenderSettings :=
  let base := RenderSettings.default
  let base := ((vars frameVariable).bind readNumber).elim base base.everyMillis
  { base with heartbeat := ((vars heartbeatVariable).bind readNumber).getD base.heartbeat }

def loggingOf (vars : Variables) : Log.Settings where
  filter := (vars logVariable).or Log.Settings.default.filter
  tag := (vars tagVariable).getD Log.Settings.default.tag

def ofVariables (vars : Variables) : Settings :=
  { default with
    assetRoot := (vars assetsVariable).getD default.assetRoot
    immersive := ((vars immersiveVariable).map readFlag).getD default.immersive
    rendering := renderingOf vars
    logging := loggingOf vars }

/-- What is said about an environment, the frame interval first. -/
def complaints (vars : Variables) : List String :=
  complaintAbout vars frameVariable ++ complaintAbout vars heartbeatVariable

end Settings
end SurfaceGate.Desktop
