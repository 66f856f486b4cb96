import SurfaceGate.Assets.Tree
import SurfaceGate.Engine.Contract
import SurfaceGate.Text.Quoted

/-!
Assets in a directory.

An asset is named by a path below the directory. A path that begins at the root or that goes up
anywhere is refused before any file is touched.
-/

namespace SurfaceGate

structure AssetDirectory where
  root : String
  deriving DecidableEq, Repr

namespace AssetDirectory

def staysInside : Path.Component → Bool
  | .name _ | .current => true
  | .root | .parent => false

def locate (d : AssetDirectory) (path : String) : Except Failure String :=
  if (Path.components path).all staysInside then .ok (Path.join d.root path)
  else .error (.of s!"asset path {Text.quoted path} escapes the asset root")

def read (d : AssetDirectory) (fs : FileSystem) (path : String) : Except Failure ByteArray :=
  match d.locate path with
  | .error why => .error why
  | .ok full =>
      match fs.readFile full with
      | .ok bytes => .ok bytes
      | .error error => .error ((Failure.of error.message).within s!"failed to read asset {full}")

def contains (d : AssetDirectory) (fs : FileSystem) (path : String) : Bool :=
  match d.locate path with
  | .error _ => false
  | .ok full => fs.isFile full

def reader (d : AssetDirectory) (fs : FileSystem) : AssetReader where
  read := d.read fs
  contains := d.contains fs

end AssetDirectory
end SurfaceGate
