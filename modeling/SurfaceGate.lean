import SurfaceGate.Assets.Directory
import SurfaceGate.Clear.Engine
import SurfaceGate.Desktop.Host
import SurfaceGate.Engine.Scripted
import SurfaceGate.Lifecycle.Controller
import SurfaceGate.Log.Setup
import SurfaceGate.Proofs.Agreement
import SurfaceGate.Proofs.Contract
import SurfaceGate.Proofs.Noninterference
import SurfaceGate.Proofs.Release
import SurfaceGate.Proofs.Gate.Requests
import SurfaceGate.Proofs.Gate.Safety
import SurfaceGate.Proofs.Gate.Binding
import SurfaceGate.Proofs.Exclusion
import SurfaceGate.Proofs.Adoption
import SurfaceGate.Proofs.Outline.Intake
import SurfaceGate.Proofs.Delivery
import SurfaceGate.Proofs.Finality
import SurfaceGate.Proofs.Smooth
import SurfaceGate.Proofs.Input.Code
import SurfaceGate.Proofs.Input.Pointers
import SurfaceGate.Proofs.Input.Replay
import SurfaceGate.Proofs.Input.Cancel
import SurfaceGate.Proofs.Input.Separation
import SurfaceGate.Proofs.Desktop.Contacts
import SurfaceGate.Proofs.Desktop.Touches
import SurfaceGate.Proofs.Desktop.Run
import SurfaceGate.Proofs.Clear.Fingers
import SurfaceGate.Proofs.Clear.Surface
import SurfaceGate.Proofs.Outline.Shift
import SurfaceGate.Proofs.Desktop.Stuck
import SurfaceGate.Proofs.Desktop.Settings
import SurfaceGate.Proofs.Desktop.Holding
import SurfaceGate.Proofs.Gestures
import SurfaceGate.Proofs.Stages
import SurfaceGate.Proofs.Refusals
import SurfaceGate.Proofs.Worker.Rendering
import SurfaceGate.Proofs.Input.Word
import SurfaceGate.Proofs.Desktop.Stays
import SurfaceGate.Proofs.Assets.Path
import SurfaceGate.Proofs.Assets.Reading
import SurfaceGate.Proofs.Log.Setup
import SurfaceGate.Proofs.Decimal.Whole
import SurfaceGate.Proofs.Desktop.Environment
import SurfaceGate.Proofs.Decimal.Literal
import SurfaceGate.Proofs.Decimal.Order
import SurfaceGate.Proofs.Clear.Color
import SurfaceGate.Proofs.Clear.Frames
import SurfaceGate.Proofs.Clear.Filming
