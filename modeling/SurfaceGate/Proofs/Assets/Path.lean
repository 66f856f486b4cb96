import Mathlib.Data.List.Basic
import SurfaceGate.Assets.Directory

/-!
Where the paths of assets lead.

A path is judged by its components, but joined to the directory as a text. Both views agree: the components of
the joined path are those of the directory, and then the names in the path. Nothing in a path that is not
refused leads up, or to the root.
-/

namespace SurfaceGate

namespace Text

/-- A mark cuts a text into two that are cut on their own. -/
theorem cutAt_append (mark : Char) (first second : List Char) :
    cutAt mark (first ++ mark :: second) = cutAt mark first ++ cutAt mark second := by
  induction first with
  | nil => simp [cutAt]
  | cons c rest ih =>
      by_cases marked : c = mark
      · simp [cutAt, marked, ih]
      · cases cut : cutAt mark rest with
        | nil => exact absurd cut (cutAt_ne_nil mark rest)
        | cons piece pieces =>
            rw [cut] at ih
            simp [cutAt, marked, ih, cut]

end Text

namespace Path

variable {root path : String}

theorem pieces_ne_nil (path : String) : pieces path ≠ [] := by
  simp [pieces, Text.cutAt_ne_nil]

theorem pieces_append (first second : String) :
    pieces (first ++ "/" ++ second) = pieces first ++ pieces second := by
  have split : (first ++ "/" ++ second).toList = first.toList ++ '/' :: second.toList := by
    simp
  rw [pieces, split, Text.cutAt_append, List.map_append]
  rfl

theorem exists_eq_of_slashed (slashed : root.toList.getLast? = some '/') : ∃ stem, root = stem ++ "/" := by
  obtain ⟨stem, split⟩ := List.getLast?_eq_some_iff.mp slashed
  refine ⟨String.ofList stem, ?_⟩
  rw [← String.toList_inj, split]
  simp

/-- The pieces of a joined path; the last piece of a root that ends in a slash, or of an empty one, is lost. -/
theorem pieces_join (root : String) (relative : isAbsolute path = false) :
    pieces (join root path) = pieces root ++ pieces path ∨
      ∃ above, pieces root = above ++ [""] ∧ pieces (join root path) = above ++ pieces path := by
  rw [join, if_neg (by simp [relative])]
  by_cases empty : root = ""
  · subst empty
    exact .inr ⟨[], rfl, by simp⟩
  · by_cases slashed : root.toList.getLast? = some '/'
    · obtain ⟨stem, rfl⟩ := exists_eq_of_slashed slashed
      refine .inr ⟨pieces stem, ?_, ?_⟩
      · have := pieces_append stem ""
        rwa [String.append_empty] at this
      · rw [if_pos (by simp), pieces_append]
    · rw [if_neg (by simp [empty, slashed]), pieces_append]
      exact .inl rfl

theorem isAbsolute_join (root : String) (relative : isAbsolute path = false) :
    isAbsolute (join root path) = isAbsolute root := by
  rw [join, if_neg (by simp [relative])]
  by_cases empty : root = ""
  · subst empty
    simpa [isAbsolute] using relative
  · have first : root.toList ≠ [] := by simpa using empty
    have head (rest : List Char) : (root.toList ++ rest).head? = root.toList.head? :=
      List.head?_append_of_ne_nil _ first
    split <;> simp [isAbsolute, head]

/-- The first piece of a joined path is that of the root, unless there is no root. -/
theorem head?_pieces_join (relative : isAbsolute path = false) (rooted : root ≠ "") :
    (pieces (join root path)).head? = (pieces root).head? := by
  rw [join, if_neg (by simp [relative])]
  split
  · next joined =>
      have slashed : root.toList.getLast? = some '/' := by simpa [rooted] using joined
      obtain ⟨stem, rfl⟩ := exists_eq_of_slashed slashed
      have own := pieces_append stem ""
      rw [String.append_empty] at own
      rw [pieces_append, own, List.head?_append_of_ne_nil _ (pieces_ne_nil stem),
        List.head?_append_of_ne_nil _ (pieces_ne_nil stem)]
  · rw [pieces_append, List.head?_append_of_ne_nil _ (pieces_ne_nil root)]

/-- What the pieces of a path mean, wherever the path begins. -/
def meant (path : String) : List Component :=
  (pieces path).filterMap component?

theorem meant_join (root : String) (relative : isAbsolute path = false) :
    meant (join root path) = meant root ++ meant path := by
  rcases pieces_join root relative with joined | ⟨above, own, joined⟩
  · rw [meant, joined, List.filterMap_append]
    rfl
  · rw [meant, meant, joined, own, List.filterMap_append, List.filterMap_append]
    simp [component?, meant]

theorem components_eq (path : String) : components path =
    if isAbsolute path then .root :: meant path
    else if (pieces path).head? = some "." then .current :: meant path else meant path :=
  rfl

theorem components_join (root : String) (relative : isAbsolute path = false) :
    components (join root path) = components root ++
      (if root = "" ∧ (pieces path).head? = some "." then [.current] else []) ++ meant path := by
  rw [components_eq, components_eq root, isAbsolute_join root relative, meant_join root relative]
  by_cases empty : root = ""
  · subst empty
    have whole : join "" path = path := by simp [join, relative]
    rw [whole]
    have none : meant "" = [] := by rfl
    have own : (pieces "").head? ≠ some "." := by decide
    by_cases dotted : (pieces path).head? = some "."
    · simp [isAbsolute, none, own, dotted]
    · simp [isAbsolute, none, own, dotted]
  · rw [head?_pieces_join relative empty]
    split
    · simp [empty]
    · split <;> simp [empty]

/-- A path that never goes up means its names. -/
theorem meant_eq_names (inside : ".." ∉ pieces path) : meant path = (Node.names path).map .name := by
  rw [meant, Node.names]
  generalize pieces path = row at inside
  induction row with
  | nil => rfl
  | cons piece rest ih =>
      obtain ⟨here, later⟩ := not_or.mp (mt List.mem_cons.mpr inside)
      by_cases nothing : piece = "" ∨ piece = "."
      · rcases nothing with rfl | rfl <;> simpa [component?] using ih later
      · obtain ⟨some_text, no_dot⟩ := not_or.mp nothing
        simp [component?, some_text, no_dot, Ne.symm here, ih later]

end Path

namespace AssetDirectory

variable {d : AssetDirectory} {path full : String}

theorem staysInside_iff (path : String) : (Path.components path).all staysInside = true ↔
    Path.isAbsolute path = false ∧ ".." ∉ Path.pieces path := by
  have meant : (Path.meant path).all staysInside = true ↔ ".." ∉ Path.pieces path := by
    rw [Path.meant]
    induction Path.pieces path with
    | nil => simp
    | cons piece rest ih =>
        by_cases nothing : piece = "" ∨ piece = "."
        · rcases nothing with rfl | rfl <;> simpa [Path.component?] using ih
        · obtain ⟨some_text, no_dot⟩ := not_or.mp nothing
          by_cases up : piece = ".."
          · simp [Path.component?, up, staysInside]
          · simpa [Path.component?, some_text, no_dot, up, Ne.symm up, staysInside] using ih
  rw [Path.components_eq, ← meant]
  split
  · next absolute => simp [absolute, staysInside]
  · next relative => split <;> simp [relative, staysInside]

theorem locate_eq_ok_iff : d.locate path = .ok full ↔
    (Path.isAbsolute path = false ∧ ".." ∉ Path.pieces path) ∧ Path.join d.root path = full := by
  rw [locate, ← staysInside_iff]
  split
  · next stays =>
      constructor
      · intro found
        exact ⟨stays, Except.ok.inj found⟩
      · rintro ⟨-, rfl⟩
        rfl
  · next leads_out =>
      constructor
      · intro found
        cases found
      · rintro ⟨stays, -⟩
        exact absurd stays leads_out

/-- Where a path leads that is not refused. -/
structure Located (d : AssetDirectory) (path full : String) : Prop where
  text : full = d.root ++
    (if d.root = "" ∨ d.root.toList.getLast? = some '/' then "" else "/") ++ path
  components : Path.components full = Path.components d.root ++
    (if d.root = "" ∧ (Path.pieces path).head? = some "." then [.current] else []) ++
      (Node.names path).map .name
  below : ∀ component ∈ (Path.components full).drop (Path.components d.root).length,
    component ≠ .root ∧ component ≠ .parent

theorem located (d : AssetDirectory) (relative : Path.isAbsolute path = false)
    (inside : ".." ∉ Path.pieces path) : d.Located path (Path.join d.root path) := by
  have components := Path.components_join d.root relative
  rw [Path.meant_eq_names inside] at components
  refine ⟨?_, components, ?_⟩
  · rw [Path.join, if_neg (by simp [relative])]
    split <;> simp_all
  · rw [components, List.append_assoc, List.drop_left]
    intro component there
    rcases List.mem_append.mp there with dot | named
    · split at dot
      · cases List.mem_singleton.mp dot
        exact ⟨nofun, nofun⟩
      · cases dot
    · obtain ⟨text, -, rfl⟩ := List.mem_map.mp named
      exact ⟨nofun, nofun⟩

/-- A path is found if and only if it begins below the directory and never goes up, and then it stays there. -/
theorem locate_inside (d : AssetDirectory) (path : String) :
    ((∃ full, d.locate path = .ok full) ↔
      Path.isAbsolute path = false ∧ ".." ∉ Path.pieces path) ∧
      ∀ full, d.locate path = .ok full → d.Located path full := by
  refine ⟨⟨?_, ?_⟩, ?_⟩
  · rintro ⟨full, found⟩
    exact (locate_eq_ok_iff.mp found).1
  · intro stays
    exact ⟨_, locate_eq_ok_iff.mpr ⟨stays, rfl⟩⟩
  · intro full found
    obtain ⟨⟨relative, inside⟩, rfl⟩ := locate_eq_ok_iff.mp found
    exact d.located relative inside

/-- Dots within names and at the beginning, empty pieces and a slash at the end lead nowhere else. -/
theorem locate_inside_dotted :
    let d : AssetDirectory := ⟨"ui/../assets/"⟩
    let full := "ui/../assets/.//..hidden/.../"
    d.locate ".//..hidden/.../" = .ok full ∧ d.Located ".//..hidden/.../" full ∧
      Path.components full = Path.components d.root ++ [.name "..hidden", .name "..."] := by
  intro d full
  have found : d.locate ".//..hidden/.../" = .ok full := by decide +kernel
  exact ⟨found, (locate_inside d _).2 full found, by decide +kernel⟩

end AssetDirectory
end SurfaceGate
