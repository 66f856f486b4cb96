import SurfaceGate.Proofs.Assets.Path

/-!
What reading assets depends on.

A lookup of a joined path goes to the root of the assets first and on from there. It never goes up again, so it
depends on the tree below the root only, and of that on what stands behind each row of names. A path is asked
for by the lookup by which it is read.
-/

namespace SurfaceGate

namespace Node

/-- What stands behind some names, each in the directory before it. -/
def behind : Node → List String → Option Node
  | node, [] => some node
  | .file _, _ :: _ => none
  | .directory entries, name :: rest => (entries.lookup name).bind (·.behind rest)

/-- The bytes of a file; a directory has none. -/
def bytes? : Node → Option ByteArray
  | .file bytes => some bytes
  | .directory _ => none

/-- Behind any names the same stands in both: nothing, a directory, or a file with the same bytes. -/
def Alike (a b : Node) : Prop :=
  ∀ names, (a.behind names).map bytes? = (b.behind names).map bytes?

variable {a b : Node} {entries others : List (String × Node)}

theorem Alike.bytes?_eq (alike : a.Alike b) : a.bytes? = b.bytes? := by
  have here := alike []
  rw [behind, behind] at here
  exact Option.some.inj here

/-- A name has nothing in both directories, or nodes that are alike. -/
theorem Alike.lookup (alike : (directory entries).Alike (.directory others)) (name : String) :
    Option.Rel Alike (entries.lookup name) (others.lookup name) := by
  have deeper : ∀ rest, ((entries.lookup name).bind (·.behind rest)).map bytes? =
      ((others.lookup name).bind (·.behind rest)).map bytes? := by
    intro rest
    have same := alike (name :: rest)
    rwa [behind, behind] at same
  have first := deeper []
  generalize entries.lookup name = found, others.lookup name = other at deeper first
  cases found with
  | none =>
      cases other with
      | none => exact .none
      | some other => simp [behind] at first
  | some node =>
      cases other with
      | none => simp [behind] at first
      | some other => exact .some deeper

end Node

namespace Position

variable {p q : Position} {piece : String} {pieces : List String}

/-- Two lookups end with one error, or at nodes that are alike. -/
inductive Agree : Except SystemError Position → Except SystemError Position → Prop
  | ok {p q : Position} (alike : p.here.Alike q.here) : Agree (.ok p) (.ok q)
  | error (error : SystemError) : Agree (.error error) (.error error)

theorem enter_agree (alike : p.here.Alike q.here) (down : piece ≠ "..") :
    Agree (p.enter piece) (q.enter piece) := by
  have same := alike.bytes?_eq
  cases here : p.here with
  | file bytes =>
      cases there : q.here with
      | file others =>
          simp only [enter, here, there]
          exact .error _
      | directory others => simp [here, there, Node.bytes?] at same
  | directory entries =>
      cases there : q.here with
      | file others => simp [here, there, Node.bytes?] at same
      | directory others =>
          simp only [enter, here, there, down, if_false]
          split
          · exact .ok alike
          · split
            · exact .error _
            · rw [here, there] at alike
              have found := alike.lookup piece
              generalize entries.lookup piece = node, others.lookup piece = other at found
              cases found with
              | none => exact .error _
              | some alike => exact .ok alike

theorem enterAll_agree (alike : p.here.Alike q.here) (down : ".." ∉ pieces) :
    Agree (p.enterAll pieces) (q.enterAll pieces) := by
  induction pieces generalizing p q with
  | nil => exact .ok alike
  | cons piece rest ih =>
      obtain ⟨first, later⟩ := not_or.mp (mt List.mem_cons.mpr down)
      have entered := enter_agree alike (Ne.symm first)
      simp only [enterAll]
      generalize p.enter piece = node, q.enter piece = other at entered
      cases entered with
      | ok alike => exact ih alike later
      | error e => exact .error e

/-- A step that does not go up stays for no name, and goes to a name that is there. -/
theorem enter_cases (down : piece ≠ "..") (entered : p.enter piece = .ok q) :
    ((piece = "" ∨ piece = ".") ∧ p = q) ∨
      (piece ≠ "" ∧ piece ≠ ".") ∧
        ∃ entries, p.here = .directory entries ∧ entries.lookup piece = some q.here := by
  cases here : p.here with
  | file bytes => simp [enter, here] at entered
  | directory entries =>
      simp only [enter, here, down, if_false] at entered
      split at entered
      · next nothing =>
          cases entered
          exact .inl ⟨by simpa using nothing, rfl⟩
      · next named =>
          split at entered
          · cases entered
          · cases found : entries.lookup piece with
            | none => simp [found] at entered
            | some node =>
                rw [found] at entered
                cases entered
                exact .inr ⟨by simpa using named, entries, rfl, found⟩

/-- A lookup that never goes up ends behind the names on its way. -/
theorem behind_of_enterAll (down : ".." ∉ pieces) (entered : p.enterAll pieces = .ok q) :
    p.here.behind (pieces.filter fun piece => piece ≠ "" && piece ≠ ".") = some q.here := by
  induction pieces generalizing p with
  | nil =>
      cases entered
      rw [List.filter_nil, Node.behind]
  | cons piece rest ih =>
      obtain ⟨first, later⟩ := not_or.mp (mt List.mem_cons.mpr down)
      simp only [enterAll] at entered
      cases step : p.enter piece with
      | error e => simp [step] at entered
      | ok next =>
          rw [step] at entered
          have behind := ih later entered
          rcases enter_cases (Ne.symm first) step with ⟨nothing, rfl⟩ | ⟨named, entries, here, found⟩
          · rcases nothing with rfl | rfl <;> simpa using behind
          · rw [here]
            simpa [named, Node.behind, found] using behind

theorem enterAll_append (p : Position) (first second : List String) :
    p.enterAll (first ++ second) = p.enterAll first >>= (·.enterAll second) := by
  induction first generalizing p with
  | nil => rfl
  | cons piece rest ih =>
      simp only [List.cons_append, enterAll]
      cases p.enter piece with
      | error e => rfl
      | ok q => exact ih q

/-- Each piece needs a directory, so an empty one before others changes nothing. -/
theorem enterAll_empty (p : Position) (some_pieces : pieces ≠ []) :
    p.enterAll [""] >>= (·.enterAll pieces) = p.enterAll pieces := by
  obtain ⟨piece, rest, rfl⟩ := List.exists_cons_of_ne_nil some_pieces
  cases here : p.here with
  | file bytes =>
      simp only [enterAll, enter, here]
      rfl
  | directory entries =>
      have stays : p.enterAll [""] = .ok p := by simp [enterAll, enter, here]
      rw [stays]
      rfl

end Position

namespace FileSystem

variable {fs other : FileSystem} {root path : String} {p q : Position}

def walk (fs : FileSystem) (path : String) : Except SystemError Position :=
  (fs.start path).enterAll (Path.pieces path)

/-- A lookup of a joined path goes to the root first. -/
theorem walk_join (fs : FileSystem) (root : String) (relative : Path.isAbsolute path = false) :
    fs.walk (Path.join root path) = fs.walk root >>= (·.enterAll (Path.pieces path)) := by
  have start : fs.start (Path.join root path) = fs.start root := by
    rw [FileSystem.start, FileSystem.start, Path.isAbsolute_join root relative]
  rw [walk, walk, start]
  rcases Path.pieces_join root relative with joined | ⟨above, own, joined⟩
  · rw [joined, Position.enterAll_append]
  · rw [joined, own, Position.enterAll_append, Position.enterAll_append, bind_assoc]
    exact congrArg _ (funext fun q => (q.enterAll_empty (Path.pieces_ne_nil path)).symm)

theorem find_eq_ok_iff : fs.find path = .ok p ↔
    (path.toList.contains '\x00' = false ∧ path ≠ "" ∧ path.utf8ByteSize < pathLimit) ∧
      fs.walk path = .ok p := by
  rw [find]
  split
  · next null => exact ⟨nofun, fun ⟨plain, _⟩ => absurd (plain.1.symm.trans null) (by decide)⟩
  · split
    · next empty => simp [empty]
    · split
      · next long => simp [Nat.not_lt.mpr long]
      · simp_all [walk]

/-- What a lookup refuses at sight does not depend on the files. -/
theorem find_agree (agree : Position.Agree (fs.walk path) (other.walk path)) :
    Position.Agree (fs.find path) (other.find path) := by
  rw [find, find]
  split
  · exact .error _
  · split
    · exact .error _
    · split
      · exact .error _
      · exact agree

theorem readFile_eq (fs : FileSystem) (path : String) : fs.readFile path =
    (fs.find path).bind fun p => p.here.bytes?.elim (.error .isADirectory) .ok := by
  rw [readFile]
  cases fs.find path with
  | error e => rfl
  | ok p =>
      obtain ⟨here, above⟩ := p
      cases here <;> rfl

theorem isFile_eq (fs : FileSystem) (path : String) : fs.isFile path =
    ((fs.find path).toOption.bind fun p => p.here.bytes?).isSome := by
  rw [isFile]
  cases fs.find path with
  | error e => rfl
  | ok p =>
      obtain ⟨here, above⟩ := p
      cases here <;> rfl

theorem readFile_eq_ok_iff {bytes : ByteArray} : fs.readFile path = .ok bytes ↔
    ∃ p, fs.find path = .ok p ∧ p.here.bytes? = some bytes := by
  rw [readFile_eq]
  cases fs.find path with
  | error e => simp [Except.bind]
  | ok p => cases own : p.here.bytes? <;> simp [Except.bind, own]

/-- Asking for a file is reading it. -/
theorem isFile_iff (fs : FileSystem) (path : String) :
    fs.isFile path = true ↔ ∃ bytes, fs.readFile path = .ok bytes := by
  simp only [isFile_eq, readFile_eq_ok_iff]
  cases fs.find path with
  | error e => simp [Except.toOption]
  | ok p => simp [Except.toOption, Option.isSome_iff_exists]

theorem readFile_agree (agree : Position.Agree (fs.find path) (other.find path)) :
    fs.readFile path = other.readFile path := by
  rw [readFile_eq, readFile_eq]
  generalize fs.find path = found, other.find path = there at agree
  cases agree with
  | error e => rfl
  | ok alike => simp only [Except.bind, alike.bytes?_eq]

end FileSystem

namespace AssetDirectory

variable {d : AssetDirectory} {fs other : FileSystem} {path full : String} {a b : Node}

/-- What stands where the root of the assets leads. Without a root this is the working directory. -/
def base (d : AssetDirectory) (fs : FileSystem) : Option Node :=
  if d.root = "" then some fs.workingDirectory.here
  else
    match fs.find d.root with
    | .error _ => none
    | .ok p => some p.here

theorem base_of_find {p : Position} (found : fs.find d.root = .ok p) : d.base fs = some p.here := by
  have rooted : d.root ≠ "" := (FileSystem.find_eq_ok_iff.mp found).1.2.1
  rw [base, if_neg rooted, found]

/-- A path leads on from the base. -/
theorem exists_walk_of_base (stands : d.base fs = some a) (relative : Path.isAbsolute path = false) :
    ∃ p : Position, p.here = a ∧
      fs.walk (Path.join d.root path) = p.enterAll (Path.pieces path) := by
  rw [base] at stands
  split at stands
  · next empty =>
      refine ⟨fs.workingDirectory, Option.some.inj stands, ?_⟩
      have whole : Path.join d.root path = path := by simp [Path.join, relative, empty]
      rw [whole, FileSystem.walk, FileSystem.start, if_neg (by simp [relative])]
  · split at stands
    · cases stands
    · next p found =>
        refine ⟨p, Option.some.inj stands, ?_⟩
        rw [FileSystem.walk_join _ _ relative, (FileSystem.find_eq_ok_iff.mp found).2]
        rfl

/-- Nothing is found from a root that leads nowhere. -/
theorem base_ne_none_of_find {p : Position} (relative : Path.isAbsolute path = false)
    (found : fs.find (Path.join d.root path) = .ok p) : d.base fs ≠ none := by
  obtain ⟨⟨plain, -, short⟩, walked⟩ := FileSystem.find_eq_ok_iff.mp found
  obtain ⟨rest, joined⟩ : ∃ rest, Path.join d.root path = d.root ++ rest := by
    rw [Path.join, if_neg (by simp [relative])]
    split
    · exact ⟨path, rfl⟩
    · exact ⟨"/" ++ path, String.append_assoc⟩
  rw [base]
  split
  · exact Option.some_ne_none _
  · next rooted =>
      rw [FileSystem.walk_join _ _ relative] at walked
      cases first : fs.walk d.root with
      | error e =>
          rw [first] at walked
          cases walked
      | ok q =>
          -- The root begins the joined path, so it is no longer than that, and as free of the null character.
          have reached : fs.find d.root = .ok q := by
            refine FileSystem.find_eq_ok_iff.mpr ⟨⟨?_, rooted, ?_⟩, first⟩
            · rw [joined] at plain
              simp_all
            · rw [joined, String.utf8ByteSize_append] at short
              omega
          rw [reached]
          exact Option.some_ne_none _

theorem read_eq_ok_iff {bytes : ByteArray} : d.read fs path = .ok bytes ↔
    ∃ full, d.locate path = .ok full ∧ fs.readFile full = .ok bytes := by
  rw [read]
  cases d.locate path with
  | error e => simp
  | ok full =>
      simp only [Except.ok.injEq, exists_eq_left']
      cases fs.readFile full <;> simp

theorem contains_iff (d : AssetDirectory) (fs : FileSystem) (path : String) :
    d.contains fs path = true ↔ ∃ bytes, d.read fs path = .ok bytes := by
  simp only [read_eq_ok_iff]
  rw [contains]
  cases d.locate path with
  | error e => simp
  | ok full => simpa using fs.isFile_iff full

/-- The reader asks as one that has nothing but its reading. -/
theorem reader_eq (d : AssetDirectory) (fs : FileSystem) : d.reader fs = .ofRead (d.read fs) := by
  refine congrArg (AssetReader.mk _) (funext fun path => Bool.eq_iff_iff.mpr ?_)
  rw [contains_iff]
  cases d.read fs path <;> simp [Except.isOk, Except.toBool]

theorem read_eq_of_alike (first : d.base fs = some a) (second : d.base other = some b)
    (alike : a.Alike b) (path : String) : d.read fs path = d.read other path := by
  rw [read, read]
  cases located : d.locate path with
  | error e => rfl
  | ok full =>
      obtain ⟨⟨relative, inside⟩, rfl⟩ := locate_eq_ok_iff.mp located
      obtain ⟨p, rfl, walked⟩ := exists_walk_of_base first relative
      obtain ⟨q, rfl, walked'⟩ := exists_walk_of_base second relative
      have agree := Position.enterAll_agree alike inside
      rw [← walked, ← walked'] at agree
      have same := FileSystem.readFile_agree (FileSystem.find_agree agree)
      simp only [same]

/-- What is read stands behind the names of the path. -/
theorem exists_base_of_read {bytes : ByteArray} (given : d.read fs path = .ok bytes) :
    ∃ node, d.base fs = some node ∧ (node.behind (Node.names path)).bind Node.bytes? = some bytes := by
  obtain ⟨full, located, given⟩ := read_eq_ok_iff.mp given
  obtain ⟨⟨relative, inside⟩, rfl⟩ := locate_eq_ok_iff.mp located
  obtain ⟨q, found, own⟩ := FileSystem.readFile_eq_ok_iff.mp given
  obtain ⟨node, stands⟩ := Option.ne_none_iff_exists'.mp (base_ne_none_of_find relative found)
  obtain ⟨p, rfl, walked⟩ := exists_walk_of_base stands relative
  have ends := walked.symm.trans (FileSystem.find_eq_ok_iff.mp found).2
  refine ⟨p.here, stands, ?_⟩
  rw [Node.names, Position.behind_of_enterAll inside ends]
  exact own

/-- A path is there if and only if it can be read. What is read is the file behind its names, and the same
from alike trees below the root, wherever the root is and whatever else there is. -/
theorem reads_below (d : AssetDirectory) (fs : FileSystem) :
    d.reader fs = .ofRead (d.read fs) ∧
      (∀ path, d.contains fs path = true ↔ ∃ bytes, d.read fs path = .ok bytes) ∧
      (∀ path bytes, d.read fs path = .ok bytes → ∃ node, d.base fs = some node ∧
        (node.behind (Node.names path)).bind Node.bytes? = some bytes) ∧
      ∀ other, Option.Rel Node.Alike (d.base fs) (d.base other) → ∀ path,
        (∀ bytes, d.read fs path = .ok bytes ↔ d.read other path = .ok bytes) ∧
          d.contains fs path = d.contains other path ∧
          (d.base fs ≠ none → d.read fs path = d.read other path) := by
  refine ⟨d.reader_eq fs, d.contains_iff fs, fun path bytes => exists_base_of_read, ?_⟩
  intro other alike path
  have nowhere : d.base fs = none ↔ d.base other = none := by
    generalize d.base fs = base, d.base other = base' at alike
    cases alike <;> simp
  have same : d.base fs ≠ none → d.read fs path = d.read other path := by
    intro stands
    generalize first : d.base fs = base, second : d.base other = base' at alike stands
    cases alike with
    | none => exact absurd rfl stands
    | some alike => exact read_eq_of_alike first second alike path
  have given : ∀ bytes, d.read fs path = .ok bytes ↔ d.read other path = .ok bytes := by
    intro bytes
    constructor
    · intro given
      obtain ⟨node, stands, -⟩ := exists_base_of_read given
      rwa [← same (by simp [stands])]
    · intro given
      obtain ⟨node, stands, -⟩ := exists_base_of_read given
      rwa [same (mt nowhere.mp (by simp [stands]))]
  refine ⟨given, Bool.eq_iff_iff.mpr ?_, same⟩
  rw [contains_iff, contains_iff]
  exact exists_congr given

section Moved

def key : Node := .file ⟨#[1]⟩
def secret : Node := .file ⟨#[2]⟩

/-- The assets beside the working directory. -/
def beside : FileSystem :=
  ⟨⟨.directory [], [.directory [("home", .directory []), ("assets", .directory [("a", key), ("b", secret)])]]⟩⟩

/-- The same assets in another order, and other files of the same names around them. -/
def elsewhere : FileSystem :=
  ⟨⟨.directory [("a", secret)],
    [.directory [("a", secret), ("assets", .directory [("b", secret), ("a", key)])], .emptyDirectory]⟩⟩

/-- The order of a directory does not count, nor what is around the root. -/
theorem reads_below_moved :
    let d : AssetDirectory := ⟨"../assets/"⟩
    Option.Rel Node.Alike (d.base beside) (d.base elsewhere) ∧
      d.read beside "./a" = .ok ⟨#[1]⟩ ∧ d.read elsewhere "./a" = .ok ⟨#[1]⟩ := by
  intro d
  have alike : Node.Alike (.directory [("a", key), ("b", secret)]) (.directory [("b", secret), ("a", key)]) := by
    intro names
    cases names with
    | nil => rfl
    | cons name rest =>
        by_cases first : name = "a"
        · subst first
          rfl
        · have other : (name == "a") = false := by simpa using first
          simp [Node.behind, List.lookup_cons, other]
  have cut : Path.pieces d.root = ["..", "assets", ""] := by decide +kernel
  have sane : d.root.toList.contains '\x00' = false ∧ d.root ≠ "" ∧
      d.root.utf8ByteSize < FileSystem.pathLimit := by decide +kernel
  have relative : Path.isAbsolute d.root = false := by decide +kernel
  have lead (fs : FileSystem) {node : Node} {above : List Node}
      (walked : fs.walk d.root = .ok ⟨node, above⟩) : d.base fs = some node :=
    base_of_find (FileSystem.find_eq_ok_iff.mpr ⟨sane, walked⟩)
  have first : d.base beside = some (.directory [("a", key), ("b", secret)]) :=
    lead beside (by rw [FileSystem.walk, FileSystem.start, relative, cut]; rfl)
  have second : d.base elsewhere = some (.directory [("b", secret), ("a", key)]) :=
    lead elsewhere (by rw [FileSystem.walk, FileSystem.start, relative, cut]; rfl)
  have related : Option.Rel Node.Alike (d.base beside) (d.base elsewhere) := by
    rw [first, second]
    exact .some alike
  have given : d.read beside "./a" = .ok ⟨#[1]⟩ := by decide +kernel
  exact ⟨related, given, (((reads_below d beside).2.2.2 elsewhere related "./a").1 _).mp given⟩

end Moved
end AssetDirectory
end SurfaceGate
