import SurfaceGate.Lifecycle.Controller

/-!
Runs of a controller: the calls of a host, one after another, and what the worker does in between.

A call may be left by a panic; the controller that it leaves is used further. What the host does when
it is asked for its support belongs to the call. It may do as it likes and answer or panic, but it
does not reach the controller.
-/

namespace SurfaceGate

section States

variable {σ τ α : Type}

/-- The state that a step leaves, whether it returns or panics. -/
def stateOf : EStateM.Result Panic σ α → σ
  | .ok _ s => s
  | .error _ s => s

def withState (f : σ → τ) : EStateM.Result Panic σ α → EStateM.Result Panic τ α
  | .ok a s => .ok a (f s)
  | .error panic s => .error panic (f s)

def Returns : EStateM.Result Panic σ α → Prop
  | .ok _ _ => True
  | .error _ _ => False

instance : DecidablePred (Returns : EStateM.Result Panic σ α → Prop)
  | .ok _ _ => isTrue trivial
  | .error _ _ => isFalse id

theorem Returns.eq {r : EStateM.Result Panic σ Unit} (returns : Returns r) :
    r = .ok () (stateOf r) := by
  cases r with
  | ok _ s => rfl
  | error panic s => exact returns.elim

theorem withState_withState {υ : Type} (f : σ → τ) (g : τ → υ) (r : EStateM.Result Panic σ α) :
    withState g (withState f r) = withState (g ∘ f) r := by
  cases r <;> rfl

theorem stateOf_withState (f : σ → τ) (r : EStateM.Result Panic σ α) :
    stateOf (withState f r) = f (stateOf r) := by
  cases r <;> rfl

theorem exists_of_withState_ok {f : σ → τ} {r : EStateM.Result Panic σ α} {a : α} {t : τ}
    (h : withState f r = .ok a t) : ∃ s, r = .ok a s ∧ f s = t := by
  cases r with
  | ok b s =>
      cases h
      exact ⟨s, rfl, rfl⟩
  | error panic s => cases h

end States

structure Conduct (H α : Type) where
  deeds : List H
  /-- Its answer, or the panic that it ends in. -/
  answer : Except Panic α

structure HostConduct (H : Type) where
  fillScreen : Conduct H Unit
  startSound : Conduct H (Except Failure Unit)

inductive HostCall (S H : Type) where
  | opened (host : HostConduct H)
  | focused (host : HostConduct H) (hasFocus : Bool)
  | appeared
  | sized (size : Extent) (surface : S) (assets : AssetReader)
  | vanished
  | ended
  | motion (batch : Input.Motion)
  | key (pressed : Input.Key)
  | reported (report : Report S)
  | discarded

inductive Answer where
  | done
  | result (result : Except GateError Unit)
  | count (delivered : Nat)
  | reached (delivered : Bool)

/-- A call returns, and not with an error. -/
def Succeeds {σ : Type} : EStateM.Result Panic σ Answer → Prop
  | .ok (.result (.error _)) _ | .error _ _ => False
  | _ => True

instance {σ : Type} : DecidablePred (Succeeds : EStateM.Result Panic σ Answer → Prop)
  | .ok (.result (.error _)) _ | .error _ _ => isFalse id
  | .ok (.result (.ok _)) _ | .ok .done _ | .ok (.count _) _ | .ok (.reached _) _ => isTrue trivial

/-- Calls run under conditions; between two of them the worker takes some steps. -/
inductive Turn (S H : Type) where
  | called (k : Conditions) (call : HostCall S H)
  | worked (steps : Nat)

variable {E : Engine} {H α : Type}

def Conduct.perform (conduct : Conduct H α) : Control E H α := do
  conduct.deeds.forM fun deed => Control.onSession (Act.note (.host deed))
  match conduct.answer with
  | .ok a => return a
  | .error panic => throw panic

def HostConduct.support (host : HostConduct H) : HostSupport (Control E H) where
  fillScreen := host.fillScreen.perform
  startSound := host.startSound.perform

def HostCall.perform (k : Conditions) : HostCall E.Surface H → Control E H Answer
  | .opened host => do Controller.openActivity (E := E) (H := H) host.support; return .done
  | .focused host hasFocus => do Controller.focus host.support hasFocus; return .done
  | .appeared => do Controller.expect; return .done
  | .sized size surface assets => do
      return .result (← Controller.adopt k size surface assets)
  | .vanished => do Controller.release k; return .done
  | .ended => do return .result (← Controller.closeActivity k)
  | .motion batch => do return .count (← Controller.motion k batch)
  | .key pressed => do return .reached (← Controller.key k pressed)
  | .reported report => do return .result (← Controller.report k report)
  | .discarded => do Controller.discard k; return .done

namespace Controller

def rested (c : Controller E H) (steps : Nat) : Controller E H :=
  { c with session := c.session.steps steps }

def turned (c : Controller E H) : Turn E.Surface H → Controller E H
  | .called k call => stateOf (call.perform k c)
  | .worked steps => c.rested steps

def run (c : Controller E H) (turns : List (Turn E.Surface H)) : Controller E H :=
  turns.foldl turned c

/-- How each call of a run came out, with the controller that it left. -/
def transcript (c : Controller E H) :
    List (Turn E.Surface H) → List (EStateM.Result Panic (Controller E H) Answer)
  | [] => []
  | .called k call :: later => call.perform k c :: transcript (stateOf (call.perform k c)) later
  | .worked steps :: later => transcript (c.rested steps) later

@[simp]
theorem turned_worked (c : Controller E H) (steps : Nat) : c.turned (.worked steps) = c.rested steps :=
  rfl

@[simp]
theorem run_nil (c : Controller E H) : c.run [] = c :=
  rfl

@[simp]
theorem run_cons (c : Controller E H) (turn : Turn E.Surface H) (later : List (Turn E.Surface H)) :
    c.run (turn :: later) = (c.turned turn).run later :=
  rfl

theorem transcript_append (c : Controller E H) (earlier later : List (Turn E.Surface H)) :
    c.transcript (earlier ++ later) = c.transcript earlier ++ (c.run earlier).transcript later := by
  induction earlier generalizing c with
  | nil => rfl
  | cons turn rest ih =>
      cases turn with
      | called k call => exact congrArg (_ :: ·) (ih _)
      | worked steps => exact ih _

end Controller
end SurfaceGate
