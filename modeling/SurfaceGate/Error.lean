import SurfaceGate.Failure
import SurfaceGate.System

/-!
Errors of the gate and of the controller behind it.

An engine's failure is passed on with the call that it ended. An ordering violation is the fault of
the caller: the call came at a time at which it may not.
-/

namespace SurfaceGate

inductive Violation where
  | prepareWhileReady
  | prepareAfterFinish
  | attachWhileReady
  | attachBeforePrepare
  | readyTooEarly
  | finishWhileReady
  | adoptAfterEnd
  | adoptReentered
  | finishWithWorker
  /-- A breach that the caller names itself. -/
  | named (what : String)
  deriving DecidableEq, Repr

def Violation.message : Violation → String
  | .prepareWhileReady => "engine init while ready"
  | .prepareAfterFinish => "engine init after shutdown"
  | .attachWhileReady => "surface bind while ready"
  | .attachBeforePrepare => "surface bind before engine init"
  | .readyTooEarly => "ready requires an initialized engine and a bound surface"
  | .finishWhileReady => "engine shutdown while ready"
  | .adoptAfterEnd => "surface change after activity destroyed"
  | .adoptReentered => "surface change re-entered"
  | .finishWithWorker => "engine shutdown with a live render worker"
  | .named what => what

inductive GateError where
  | prepare (why : Failure)
  | attach (why : Failure)
  | render (why : Failure)
  | ordering (violation : Violation)
  | workerStart (why : SystemError)
  deriving DecidableEq, Repr

namespace GateError

def message : GateError → String
  | prepare why => "engine initialization failed: " ++ why.message
  | attach why => "surface bind failed: " ++ why.message
  | render why => "frame render failed: " ++ why.message
  | ordering violation => "ordering violation: " ++ violation.message
  | workerStart why => "failed to spawn render worker: " ++ why.message

/-- Whether the caller is at fault, not the engine or the system. -/
def isCallerFault : GateError → Bool
  | ordering _ => true
  | _ => false

/-- The texts of what lies behind the error, outermost first. -/
def sources : GateError → List String
  | prepare why | attach why | render why => why.layers
  | ordering _ => []
  | workerStart why => [why.message]

end GateError
end SurfaceGate
