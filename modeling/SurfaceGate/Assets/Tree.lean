import SurfaceGate.Assets.Path
import SurfaceGate.System

/-!
Trees of files and directories, and how a path is looked up in them.

A lookup takes a path piece by piece from the working directory or, if the path is absolute, from
the topmost directory above it. Each piece needs a directory to be looked up in, even an empty piece;
the first piece that fails decides the error.
-/

namespace SurfaceGate

inductive Node where
  | file (bytes : ByteArray)
  | directory (entries : List (String × Node))

namespace Node

def emptyDirectory : Node := .directory []

/-- Puts an entry in the place of one with its name, or at the end. -/
def putEntry (name : String) (node : Node) : List (String × Node) → List (String × Node)
  | [] => [(name, node)]
  | (other, old) :: rest =>
      if other = name then (name, node) :: rest else (other, old) :: putEntry name node rest

/-- Makes `leaf` of what stands at the end of the pieces, with the directories on the way. -/
def graft (leaf : Node → Node) : List String → Node → Node
  | [], node => leaf node
  | name :: rest, node =>
      let entries :=
        match node with
        | .directory entries => entries
        | .file _ => []
      let child := (entries.lookup name).getD emptyDirectory
      .directory (putEntry name (graft leaf rest child) entries)

def names (path : String) : List String :=
  (Path.pieces path).filter fun piece => piece ≠ "" && piece ≠ "."

def withFile (path : String) (bytes : ByteArray) (tree : Node) : Node :=
  graft (fun _ => .file bytes) (names path) tree

/-- The tree with a directory at a path; one that is there stays. -/
def withDirectory (path : String) (tree : Node) : Node :=
  graft id (names path) tree

end Node

/-- A place in a tree: a node, and the directories above it, nearest first. -/
structure Position where
  here : Node
  above : List Node

namespace Position

/-- A node with nothing beside it, and nothing above but a directory. -/
def alone (node : Node) : Position :=
  ⟨node, [.emptyDirectory]⟩

instance : Coe Node Position := ⟨alone⟩

def emptyDirectory : Position :=
  alone .emptyDirectory

/-- The directory above; the topmost is its own. -/
def parent (p : Position) : Position :=
  match p.above with
  | [] => p
  | up :: above => ⟨up, above⟩

def topmost (p : Position) : Position :=
  match p.above.getLast? with
  | none => p
  | some top => ⟨top, []⟩

def nameLimit : Nat := 255

def enter (p : Position) (piece : String) : Except SystemError Position :=
  match p.here with
  | .file _ => .error .notADirectory
  | .directory entries =>
      if piece = "" || piece = "." then .ok p
      else if piece = ".." then .ok p.parent
      else if nameLimit < piece.utf8ByteSize then .error .nameTooLong
      else
        match entries.lookup piece with
        | none => .error .noEntry
        | some node => .ok ⟨node, p.here :: p.above⟩

def enterAll (p : Position) : List String → Except SystemError Position
  | [] => .ok p
  | piece :: rest =>
      match p.enter piece with
      | .error error => .error error
      | .ok p => p.enterAll rest

end Position

structure FileSystem where
  workingDirectory : Position

namespace FileSystem

def pathLimit : Nat := 4096

def start (fs : FileSystem) (path : String) : Position :=
  if Path.isAbsolute path then fs.workingDirectory.topmost else fs.workingDirectory

def find (fs : FileSystem) (path : String) : Except SystemError Position :=
  if path.toList.contains '\x00' then .error .nullInName
  else if path = "" then .error .noEntry
  else if pathLimit ≤ path.utf8ByteSize then .error .nameTooLong
  else (fs.start path).enterAll (Path.pieces path)

def readFile (fs : FileSystem) (path : String) : Except SystemError ByteArray :=
  match fs.find path with
  | .error error => .error error
  | .ok ⟨.file bytes, _⟩ => .ok bytes
  | .ok ⟨.directory _, _⟩ => .error .isADirectory

def isFile (fs : FileSystem) (path : String) : Bool :=
  match fs.find path with
  | .ok ⟨.file _, _⟩ => true
  | _ => false

end FileSystem
end SurfaceGate
