import SurfaceGate.Engine.Gate
import SurfaceGate.Proofs.Outline.Mirror

/-!
Requests to a gate.

A gate that stands alone is asked by any number of threads, in any order. Every request is one atomic
step, so a run is a list of requests, each with the thread that makes it. What a request can do is said
once, in `Handles`: it is refused, it changes a flag without a call, or it makes one call that the flags
admit.
-/

namespace SurfaceGate

inductive Request (S : Type) where
  | prepare (assets : AssetReader) (size : Extent)
  | attach (surface : Option S)
  | allow
  | forbid
  | render
  | feed (event : Input.Event)
  | finish

inductive Reply where
  | done (result : Except GateError Unit)
  | attempted (result : Except GateError Attempt)
  | finished (result : Except GateError Bool)
  | told (answer : Bool)

/-- The call that a request makes, if it is not refused. -/
def Request.call? {S : Type} : Request S → Option (Call S)
  | .prepare _ size => some (.prepare size)
  | .attach surface => some (.attach surface)
  | .allow | .forbid => none
  | .render => some .render
  | .feed event => some (.input event)
  | .finish => some .finish

variable {E : Engine} {H : Type}

def Request.perform (thread : Thread) : Request E.Surface → Act E H Reply
  | .prepare assets size => do return .done (← Gate.prepare thread assets size)
  | .attach surface => do return .done (← Gate.attach thread surface)
  | .allow => do return .done (← Gate.allow)
  | .forbid => do return .told (← Gate.forbid)
  | .render => do return .attempted (← Gate.render thread)
  | .feed event => do return .told (← Gate.feed thread event)
  | .finish => do return .finished (← Gate.finish thread)

namespace Session

/-- What a request leaves, whether it returns or panics. -/
def asked (s : Session E H) (turn : Thread × Request E.Surface) : Session E H :=
  stateOf (turn.2.perform turn.1 s)

def askedAll (s : Session E H) (turns : List (Thread × Request E.Surface)) : Session E H :=
  turns.foldl asked s

theorem askedAll_append (s : Session E H) (earlier later : List (Thread × Request E.Surface)) :
    s.askedAll (earlier ++ later) = (s.askedAll earlier).askedAll later :=
  List.foldl_append

/-- What every request preserves holds behind all of them. -/
theorem askedAll_induct {P : Session E H → Prop} (step : ∀ s turn, P s → P (s.asked turn))
    {s : Session E H} (start : P s) (turns : List (Thread × Request E.Surface)) :
    P (s.askedAll turns) := by
  induction turns generalizing s with
  | nil => exact start
  | cons turn later ih => exact ih (step s turn start)

end Session

/-- The gate opens or closes. -/
def Session.setReady (ready : Bool) (s : Session E H) : Session E H :=
  { s with gate := { s.gate with ready } }.write (.readiness ready)

namespace Gate

/-- Whether a call may reach the engine. -/
def Admits (g : Gate E) : Call E.Surface → Prop
  | .prepare _ => g.ready = false ∧ g.phase ≠ .finished
  | .attach _ | .finish => g.ready = false ∧ g.phase = .prepared
  | .render | .input _ => g.ready = true

/-- The flags behind a call. A surface that the engine does not take leaves the flag as it was; one
that is taken back is gone however the engine answers. -/
def noted (g : Gate E) : Call E.Surface → Outcome → Gate E
  | .prepare _, .ok => { g with phase := .prepared }
  | .attach (some _), .ok => { g with bound := true }
  | .attach none, _ => { g with bound := false }
  | .finish, _ => { g with phase := .finished, bound := false }
  | _, _ => g

end Gate

/-- What a request can do to a session. -/
inductive Handles (thread : Thread) (s : Session E H) :
    Request E.Surface → Session E H → Prop where
  | refused {request : Request E.Surface} (other : request ≠ .forbid) : Handles thread s request s
  | called {request : Request E.Surface} {t : Session E H} (call : Call E.Surface)
      (outcome : Outcome) (p : Performance E.State E.Effect) (makes : request.call? = some call)
      (admitted : s.gate.Admits call)
      (gate : t.gate = { s.gate.noted call outcome with engine := p.state })
      (journal : t.journal = .call ⟨thread, call, p.deeds, outcome⟩ :: s.journal) :
      Handles thread s request t
  /-- An engine that is not prepared has no surface to take back. -/
  | unbound (closed : s.gate.ready = false) (unprepared : s.gate.phase ≠ .prepared) :
      Handles thread s (.attach none) { s with gate := { s.gate with bound := false } }
  | opened (prepared : s.gate.phase = .prepared) (bound : s.gate.bound = true) :
      Handles thread s .allow (s.setReady true)
  | closed : Handles thread s .forbid (s.setReady false)

theorem Act.look {β : Type} (f : Gate E → Act E H β) (s : Session E H) :
    (Act.gate >>= f) s = f s.gate s :=
  bind_of_ok (x := Act.gate) rfl

theorem Gate.allow_eq (s : Session E H) :
    Gate.allow s =
      if s.gate.phase = .prepared ∧ s.gate.bound = true then .ok (.ok ()) (s.setReady true)
      else .ok (.error (.ordering .readyTooEarly)) s := by
  simp only [Gate.allow]
  rw [Act.look]
  split
  · rfl
  · rfl

namespace Handles

/-- The engine answers a call in one of three ways. -/
theorem perform {β : Type} {thread : Thread} {request : Request E.Surface} {call : Call E.Surface}
    {work : Work E.State E.Effect Unit} {f : Except Failure Unit → Act E H β} {s s' : Session E H}
    (ok : ∀ p, Handles thread s request (stateOf (f (.ok ()) (s'.close thread call .ok p))))
    (failed : ∀ why p,
      Handles thread s request (stateOf (f (.error why) (s'.close thread call (.failed why) p))))
    (panicked : ∀ panic p, Handles thread s request (s'.close thread call (.panicked panic) p)) :
    Handles thread s request (stateOf ((Act.perform thread call work >>= f) s')) := by
  simp only [Act.perform, bind, EStateM.bind]
  rcases work ⟨s'.gate.engine, []⟩ with ⟨_, p⟩ | ⟨why | panic, p⟩
  · exact ok p
  · exact failed why p
  · exact panicked panic p

theorem prepare (thread : Thread) (assets : AssetReader) (size : Extent) (s : Session E H) :
    Handles thread s (.prepare assets size) (stateOf (Gate.prepare thread assets size s)) := by
  simp only [Gate.prepare]
  rw [Act.look]
  split
  · exact .refused nofun
  · next closed =>
      split
      · exact .refused nofun
      · next unfinished =>
          have admitted : s.gate.Admits (.prepare size) := ⟨eq_false_of_ne_true closed, unfinished⟩
          refine perform (fun p => ?_) (fun why p => ?_) fun panic p => ?_
          · exact .called _ .ok p rfl admitted rfl rfl
          · exact .called _ (.failed why) p rfl admitted rfl rfl
          · exact .called _ (.panicked panic) p rfl admitted rfl rfl

theorem give (thread : Thread) (surface : E.Surface) (s : Session E H) :
    Handles thread s (.attach (some surface)) (stateOf (Gate.give thread surface s)) := by
  simp only [Gate.give]
  rw [Act.look]
  split
  · exact .refused nofun
  · next closed =>
      split
      · next prepared =>
          have admitted : s.gate.Admits (.attach (some surface)) :=
            ⟨eq_false_of_ne_true closed, prepared⟩
          refine perform (fun p => ?_) (fun why p => ?_) fun panic p => ?_
          · exact .called _ .ok p rfl admitted rfl rfl
          · exact .called _ (.failed why) p rfl admitted rfl rfl
          · exact .called _ (.panicked panic) p rfl admitted rfl rfl
      · exact .refused nofun

theorem takeBack (thread : Thread) (s : Session E H) :
    Handles thread s (.attach none) (stateOf (Gate.takeBack thread s)) := by
  simp only [Gate.takeBack]
  rw [Act.look]
  split
  · exact .refused nofun
  · next closed =>
      rw [bind_of_ok (x := Act.setGate _) rfl]
      split
      · next prepared =>
          have admitted : s.gate.Admits (.attach none) := ⟨eq_false_of_ne_true closed, prepared⟩
          refine perform (fun p => ?_) (fun why p => ?_) fun panic p => ?_
          · exact .called _ .ok p rfl admitted rfl rfl
          · exact .called _ (.failed why) p rfl admitted rfl rfl
          · exact .called _ (.panicked panic) p rfl admitted rfl rfl
      · next unprepared => exact .unbound (eq_false_of_ne_true closed) unprepared

theorem allow (thread : Thread) (s : Session E H) :
    Handles thread s .allow (stateOf (Gate.allow s)) := by
  rw [Gate.allow_eq]
  split
  · next held => exact .opened held.1 held.2
  · exact .refused nofun

theorem render (thread : Thread) (s : Session E H) :
    Handles thread s .render (stateOf (Gate.render thread s)) := by
  simp only [Gate.render]
  rw [Act.look]
  split
  · next ready =>
      refine perform (fun p => ?_) (fun why p => ?_) fun panic p => ?_
      · exact .called .render .ok p rfl ready rfl rfl
      · exact .called .render (.failed why) p rfl ready rfl rfl
      · exact .called .render (.panicked panic) p rfl ready rfl rfl
  · exact .refused nofun

theorem feed (thread : Thread) (event : Input.Event) (s : Session E H) :
    Handles thread s (.feed event) (stateOf (Gate.feed thread event s)) := by
  simp only [Gate.feed]
  rw [Act.look]
  split
  · next ready => exact .called (.input event) .ok ⟨_, _⟩ rfl ready rfl rfl
  · exact .refused nofun

theorem finish (thread : Thread) (s : Session E H) :
    Handles thread s .finish (stateOf (Gate.finish thread s)) := by
  simp only [Gate.finish]
  rw [Act.look]
  split
  · exact .refused nofun
  · next closed =>
      split
      · next prepared =>
          exact .called .finish .ok ⟨_, _⟩ rfl ⟨eq_false_of_ne_true closed, prepared⟩ rfl rfl
      · exact .refused nofun

theorem of_asked (s : Session E H) (turn : Thread × Request E.Surface) :
    Handles turn.1 s turn.2 (s.asked turn) := by
  obtain ⟨thread, request⟩ := turn
  simp only [Session.asked]
  cases request with
  | prepare assets size =>
      simp only [Request.perform, stateOf_return]
      exact prepare thread assets size s
  | attach surface =>
      simp only [Request.perform, stateOf_return]
      cases surface with
      | none => exact takeBack thread s
      | some surface => exact give thread surface s
  | allow =>
      simp only [Request.perform, stateOf_return]
      exact allow thread s
  | forbid => exact .closed
  | render =>
      simp only [Request.perform, stateOf_return]
      exact render thread s
  | feed event =>
      simp only [Request.perform, stateOf_return]
      exact feed thread event s
  | finish =>
      simp only [Request.perform, stateOf_return]
      exact finish thread s

end Handles
end SurfaceGate
