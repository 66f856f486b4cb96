import SurfaceGate.Text.Blank

/-!
Paths as texts, and what they name step by step.

Slashes cut a path into pieces. A component is a piece that means something: the root before a
leading slash, a parent, a name, or the dot at the very beginning of a path. Other dots, and the
nothing between two slashes, mean nothing.
-/

namespace SurfaceGate.Path

inductive Component where
  | root
  | current
  | parent
  | name (text : String)
  deriving DecidableEq, Repr

/-- What the slashes of a path leave. -/
def pieces (path : String) : List String :=
  (Text.cutAt '/' path.toList).map String.ofList

def isAbsolute (path : String) : Bool :=
  path.toList.head? = some '/'

/-- The meaning of a piece that is not the first. -/
def component? (piece : String) : Option Component :=
  if piece = "" || piece = "." then none
  else if piece = ".." then some .parent
  else some (.name piece)

def components (path : String) : List Component :=
  let named := (pieces path).filterMap component?
  if isAbsolute path then .root :: named
  else if (pieces path).head? = some "." then .current :: named
  else named

/-- The path `relative` as it is reached from `root`. -/
def join (root relative : String) : String :=
  if isAbsolute relative then relative
  else if root = "" || root.toList.getLast? = some '/' then root ++ relative
  else root ++ "/" ++ relative

end SurfaceGate.Path
