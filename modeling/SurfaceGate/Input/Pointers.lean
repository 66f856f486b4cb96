import SurfaceGate.Input.Code
import SurfaceGate.Log.Level

/-!
The pointers that are down, and the events that batches give rise to.

A batch names the one pointer that went down or up, or moves them all, or cancels them all. The map
holds the last known position of every pointer that is down, in ascending order of the identities.
A pointer that is not down may still move; its events pass and it stays out of the map.
-/

namespace SurfaceGate.Input

/-- The pointers that are down with their last known positions, ascending by identity. -/
structure Pointers where
  active : List (Identity × Point)
  deriving DecidableEq, Repr

namespace Pointers

def empty : Pointers := ⟨[]⟩

def ids (p : Pointers) : List Identity :=
  p.active.map Prod.fst

def count (p : Pointers) : Nat :=
  p.active.length

def position? (p : Pointers) (id : Identity) : Option Point :=
  p.active.lookup id

def isDown (p : Pointers) (id : Identity) : Bool :=
  (p.position? id).isSome

/-- Puts a position at its place in the order; an older position of the same pointer goes. -/
def put (id : Identity) (position : Point) :
    List (Identity × Point) → List (Identity × Point)
  | [] => [(id, position)]
  | (other, known) :: rest =>
      if id < other then (id, position) :: (other, known) :: rest
      else if id = other then (id, position) :: rest
      else (other, known) :: put id position rest

def insert (p : Pointers) (s : Sample) : Pointers :=
  ⟨put s.id s.position p.active⟩

def erase (p : Pointers) (id : Identity) : Pointers :=
  ⟨p.active.filter fun (other, _) => other ≠ id⟩

/-- Notes the position of a pointer that is down; others stay out of the map. -/
def follow (p : Pointers) (s : Sample) : Pointers :=
  ⟨p.active.map fun (id, known) => if id = s.id then (id, s.position) else (id, known)⟩

def followAll (p : Pointers) (samples : List Sample) : Pointers :=
  samples.foldl follow p

/-- An up for every pointer that is down, at its last known position. -/
def lifts (p : Pointers) : List Event :=
  p.active.map fun (id, position) => .touch .up id position

def liftAll (p : Pointers) : List Event × Pointers :=
  (p.lifts, empty)

end Pointers

def Sample.touch (s : Sample) (action : TouchChange) : Event :=
  .touch action s.id s.position

structure Absorbed where
  events : List Event
  pointers : Pointers
  lines : List Log.Line
  deriving DecidableEq, Repr

def missingSample (m : Motion) (index : Nat) : Log.Line :=
  ⟨.warn, s!"motion action {Code.shown m.action} names pointer index {index} "
    ++ s!"but only {m.samples.length} pointers were reported"⟩

namespace Pointers

def goDown (p : Pointers) (s : Sample) : Absorbed where
  events := [s.touch .down]
  pointers := p.insert s
  lines :=
    if p.isDown s.id then [⟨.debug, s!"pointer {s.id} went down twice without an up"⟩] else []

def goUp (p : Pointers) (s : Sample) : Absorbed where
  events := [s.touch .up]
  pointers := p.erase s.id
  lines := []

/-- The events of one batch: one for a pointer that goes down or up, one for each pointer of a move,
one for each pointer that a cancel releases. -/
def absorb (p : Pointers) (m : Motion) : Absorbed :=
  match Action.ofCode? m.action with
  | none => ⟨[], p, [⟨.trace, s!"ignoring motion action {Code.shown m.action}"⟩]⟩
  | some (.down index) =>
      match m.samples[index]? with
      | none => ⟨[], p, [missingSample m index]⟩
      | some s => p.goDown s
  | some (.up index) =>
      match m.samples[index]? with
      | none => ⟨[], p, [missingSample m index]⟩
      | some s => p.goUp s
  | some .move => ⟨m.samples.map (·.touch .move), p.followAll m.samples, []⟩
  | some .cancel => ⟨(p.followAll m.samples).lifts, empty, []⟩

end Pointers

def Key.event? (k : Key) : Option Event :=
  (KeyChange.ofCode? k.action).map fun action => .key action k.code

end SurfaceGate.Input
