/-!
Stages of a bind cycle and the moves between them.

A cycle goes from `idle` over `preparing` and `binding` to `ready`, and over `dismantling` back to
`idle`. From `ready` the next cycle may begin at once, and a cycle that fails ends idle.
-/

namespace SurfaceGate

inductive Stage where
  | idle
  | preparing
  | binding
  | ready
  | dismantling
  deriving DecidableEq, Repr

namespace Stage

def all : List Stage :=
  [idle, preparing, binding, ready, dismantling]

def shown : Stage → String
  | idle => "idle"
  | preparing => "engine-initializing"
  | binding => "surface-binding"
  | ready => "ready"
  | dismantling => "tearing-down"

def next : Stage → List Stage
  | idle => [preparing]
  | preparing => [idle, binding]
  | binding => [idle, ready]
  | ready => [preparing, dismantling]
  | dismantling => [idle]

def allows (a b : Stage) : Bool :=
  b ∈ a.next

end Stage
end SurfaceGate
