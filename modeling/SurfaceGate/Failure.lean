/-!
Failures with the contexts they passed through.

A failure begins with a cause; each layer of the program that passes it on may say what it was
doing. The message lists the contexts from the outermost one in and ends with the cause.
-/

namespace SurfaceGate

structure Failure where
  cause : String
  /-- What was being done, outermost first. -/
  contexts : List String
  deriving DecidableEq, Repr

def Failure.of (cause : String) : Failure :=
  ⟨cause, []⟩

def Failure.within (failure : Failure) (context : String) : Failure :=
  { failure with contexts := context :: failure.contexts }

def Failure.layers (failure : Failure) : List String :=
  failure.contexts ++ [failure.cause]

def Failure.message (failure : Failure) : String :=
  ": ".intercalate failure.layers

def inContext {α : Type} (context : String) (result : Except Failure α) : Except Failure α :=
  result.mapError (·.within context)

/-- What is thrown when code panics: usually a text. -/
inductive Panic where
  | text (message : String)
  | other
  deriving DecidableEq, Repr

def Panic.message : Panic → String
  | .text message => message
  | .other => "non-string panic payload"

end SurfaceGate
