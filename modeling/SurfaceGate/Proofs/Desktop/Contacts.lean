import Mathlib.Data.List.Infix
import Mathlib.Data.List.Nodup
import Mathlib.Data.List.Perm.Subperm
import SurfaceGate.Desktop.Contacts
import SurfaceGate.Desktop.Window

/-!
The contacts that are down: no contact is there twice, and no identity.

A contact keeps its identity and its place in the order, apart from the gaps that others leave: the index of
a contact never grows.
-/

namespace SurfaceGate.Desktop

open Input

namespace Contacts

/-- No contact is down twice, and no two contacts have one identity. -/
structure Distinct (c : Contacts) : Prop where
  contacts : (c.held.map Prod.fst).Nodup
  identities : c.identities.Nodup

variable {c : Contacts} {contact d e : Contact} {s t : Sample} {i j : Nat} {position : Point}

theorem distinct_empty : empty.Distinct :=
  ⟨List.nodup_nil, List.nodup_nil⟩

theorem identities_eq (c : Contacts) : c.identities = c.held.map fun entry => entry.2.id :=
  List.map_map

theorem samples_getElem? (here : c.held[i]? = some (d, s)) : c.samples[i]? = some s := by
  rw [samples, List.getElem?_map, here]
  rfl

theorem exists_of_lt (bound : i < c.held.length) : ∃ d s, c.held[i]? = some (d, s) :=
  ⟨_, _, List.getElem?_eq_getElem bound⟩

namespace Distinct

theorem index_eq_of_contact (distinct : c.Distinct) (first : c.held[i]? = some (d, s))
    (second : c.held[j]? = some (d, t)) : i = j := by
  have bound : i < (c.held.map Prod.fst).length := by
    rw [List.length_map]
    exact (List.getElem?_eq_some_iff.mp first).1
  refine (List.getElem?_inj bound distinct.contacts).mp ?_
  rw [List.getElem?_map, List.getElem?_map, first, second]
  rfl

theorem index_eq_of_identity (distinct : c.Distinct) (first : c.held[i]? = some (d, s))
    (second : c.held[j]? = some (e, t)) (same : s.id = t.id) : i = j := by
  have once := distinct.identities
  rw [identities_eq] at once
  have bound : i < (c.held.map fun entry => entry.2.id).length := by
    rw [List.length_map]
    exact (List.getElem?_eq_some_iff.mp first).1
  refine (List.getElem?_inj bound once).mp ?_
  rw [List.getElem?_map, List.getElem?_map, first, second]
  exact congrArg some same

end Distinct

section Index

theorem index?_eq_none_iff : c.index? contact = none ↔ ∀ s, (contact, s) ∉ c.held := by
  rw [index?, List.findIdx?_eq_none_iff]
  constructor
  · intro absent s there
    simpa using absent _ there
  · rintro absent ⟨other, s⟩ there
    have differs : other ≠ contact := by
      rintro rfl
      exact absent s there
    simpa using differs

theorem exists_of_index? (found : c.index? contact = some i) : ∃ s, c.held[i]? = some (contact, s) := by
  rw [index?, List.findIdx?_eq_some_iff_getElem] at found
  obtain ⟨bound, here, -⟩ := found
  refine ⟨(c.held[i]).2, ?_⟩
  rw [List.getElem?_eq_getElem bound]
  have same : (c.held[i]).1 = contact := by simpa using here
  rw [← same]

theorem exists_index? (there : (contact, s) ∈ c.held) : ∃ i, c.index? contact = some i := by
  cases found : c.index? contact with
  | none => exact absurd there (index?_eq_none_iff.mp found s)
  | some i => exact ⟨i, rfl⟩

theorem Distinct.index?_eq_some (distinct : c.Distinct) (here : c.held[i]? = some (contact, s)) :
    c.index? contact = some i := by
  obtain ⟨j, found⟩ := exists_index? (List.mem_of_getElem? here)
  obtain ⟨t, there⟩ := exists_of_index? found
  rw [found, distinct.index_eq_of_contact here there]

end Index

section Place

/-- A contact at a position, if it is the one that moved. -/
def placed (contact : Contact) (position : Point) (entry : Contact × Sample) : Contact × Sample :=
  if entry.1 = contact then (entry.1, { entry.2 with position }) else entry

theorem held_place (c : Contacts) (contact : Contact) (position : Point) :
    (c.place contact position).held = c.held.map (placed contact position) :=
  rfl

theorem placed_same (contact : Contact) (position : Point) (s : Sample) :
    placed contact position (contact, s) = (contact, ⟨s.id, position⟩) :=
  if_pos rfl

theorem placed_other (differs : d ≠ contact) (position : Point) (s : Sample) :
    placed contact position (d, s) = (d, s) :=
  if_neg differs

theorem placed_fst (contact : Contact) (position : Point) (entry : Contact × Sample) :
    (placed contact position entry).1 = entry.1 := by
  rw [placed]
  split <;> rfl

theorem placed_id (contact : Contact) (position : Point) (entry : Contact × Sample) :
    (placed contact position entry).2.id = entry.2.id := by
  rw [placed]
  split <;> rfl

theorem getElem?_place (c : Contacts) (contact : Contact) (position : Point) (i : Nat) :
    (c.place contact position).held[i]? = c.held[i]?.map (placed contact position) := by
  rw [held_place, List.getElem?_map]

theorem exists_held_place (contact : Contact) (position : Point) (here : c.held[i]? = some (d, s)) :
    ∃ x, (c.place contact position).held[i]? = some (d, ⟨s.id, x⟩) := by
  rw [getElem?_place, here]
  by_cases same : d = contact
  · subst same
    exact ⟨position, congrArg some (placed_same d position s)⟩
  · exact ⟨s.position, congrArg some (placed_other same position s)⟩

/-- Only the contact that moves is moved. -/
theorem Distinct.getElem?_place_of_ne (distinct : c.Distinct)
    (moved : c.held[i]? = some (contact, t)) (elsewhere : j ≠ i) (position : Point) :
    (c.place contact position).held[j]? = c.held[j]? := by
  rw [getElem?_place]
  cases there : c.held[j]? with
  | none => rfl
  | some entry =>
      obtain ⟨d, s⟩ := entry
      have differs : d ≠ contact := by
        rintro rfl
        exact elsewhere (distinct.index_eq_of_contact there moved)
      exact congrArg some (placed_other differs position s)

theorem getElem?_place_self (moved : c.held[i]? = some (contact, s)) (position : Point) :
    (c.place contact position).held[i]? = some (contact, ⟨s.id, position⟩) := by
  rw [getElem?_place, moved]
  exact congrArg some (placed_same contact position s)

theorem Distinct.place (distinct : c.Distinct) (contact : Contact) (position : Point) :
    (c.place contact position).Distinct where
  contacts := by
    have same : (c.place contact position).held.map Prod.fst = c.held.map Prod.fst := by
      rw [held_place, List.map_map]
      exact List.map_congr_left fun entry _ => placed_fst contact position entry
    rw [same]
    exact distinct.contacts
  identities := by
    have same : (c.place contact position).identities = c.identities := by
      rw [identities_eq, identities_eq, held_place, List.map_map]
      exact List.map_congr_left fun entry _ => placed_id contact position entry
    rw [same]
    exact distinct.identities

end Place

theorem Distinct.eraseIdx (distinct : c.Distinct) (i : Nat) : (⟨c.held.eraseIdx i⟩ : Contacts).Distinct where
  contacts := distinct.contacts.sublist ((List.eraseIdx_sublist c.held i).map _)
  identities := by
    have once := distinct.identities
    rw [identities_eq] at once ⊢
    exact once.sublist ((List.eraseIdx_sublist c.held i).map _)

section Least

variable {n m : Nat}

/-- The least number that is no contact's identity. -/
structure LeastFree (c : Contacts) (n : Nat) : Prop where
  free : (n : Identity) ∉ c.identities
  taken : ∀ m < n, (m : Identity) ∈ c.identities

/-- There are at least as many contacts as numbers that they have. -/
theorem le_length_of_taken (taken : ∀ m < n, (m : Identity) ∈ c.identities) : n ≤ c.held.length := by
  have inside : (List.range n).map Int.ofNat ⊆ c.identities := by
    intro id there
    obtain ⟨m, below, rfl⟩ := List.mem_map.mp there
    exact taken m (List.mem_range.mp below)
  have once : ((List.range n).map Int.ofNat).Nodup :=
    List.Nodup.map (fun _ _ => Int.ofNat.inj) List.nodup_range
  have fits := (List.subperm_of_subset once inside).length_le
  rwa [identities_eq, List.length_map, List.length_map, List.length_range] at fits

theorem LeastFree.unique (first : c.LeastFree n) (second : c.LeastFree m) : n = m := by
  rcases Nat.lt_trichotomy n m with below | same | above
  · exact absurd (second.taken n below) first.free
  · exact same
  · exact absurd (first.taken m above) second.free

/-- Among one more numbers than there are contacts, one is no contact's identity. -/
theorem exists_leastFree (c : Contacts) : ∃ n : Nat, c.freeIdentity = n ∧ c.LeastFree n := by
  simp only [freeIdentity]
  cases found : (List.range (c.held.length + 1)).find? fun n => !c.identities.contains (Int.ofNat n) with
  | some n =>
      obtain ⟨free, -, passed⟩ := List.find?_range_eq_some.mp found
      exact ⟨n, rfl, by simpa using free, fun m below => by simpa using passed m below⟩
  | none =>
      have taken := List.find?_eq_none.mp found
      have fits := c.le_length_of_taken fun m below => by simpa using taken m (List.mem_range.mpr below)
      exact absurd fits (Nat.not_succ_le_self _)

theorem freeIdentity_not_mem (c : Contacts) : c.freeIdentity ∉ c.identities := by
  obtain ⟨n, same, least⟩ := c.exists_leastFree
  rw [same]
  exact least.free

end Least

theorem Distinct.append (distinct : c.Distinct) (new : ∀ s, (contact, s) ∉ c.held)
    (free : s.id ∉ c.identities) : (⟨c.held ++ [(contact, s)]⟩ : Contacts).Distinct where
  contacts := by
    have fresh : contact ∉ c.held.map Prod.fst := by
      intro there
      obtain ⟨⟨_, s⟩, held, rfl⟩ := List.mem_map.mp there
      exact new s held
    rw [List.map_append, List.map_singleton, ← List.concat_eq_append]
    exact distinct.contacts.concat fresh
  identities := by
    have once := distinct.identities
    rw [identities_eq] at once free ⊢
    rw [List.map_append, List.map_singleton, ← List.concat_eq_append]
    exact once.concat free

section Strokes

/-- One report of a pointing device, with the batch that it becomes. -/
def strike (c : Contacts) (contact : Contact) (stroke : Stroke) (position : Point) :
    Option Motion × Contacts :=
  match stroke with
  | .goesDown => c.goDown contact position
  | .moves => c.move contact position
  | .goesUp => c.goUp contact position
  | .isCancelled => c.cancel

/-- The contact that goes down, with the identity that it gets. -/
def joined (c : Contacts) (contact : Contact) (position : Point) : Contacts :=
  ⟨c.held ++ [(contact, ⟨c.freeIdentity, position⟩)]⟩

theorem goDown_of_new (new : ∀ s, (contact, s) ∉ c.held) (position : Point) :
    c.goDown contact position =
      (some ⟨(Action.down c.held.length).toCode (c.held.length + 1),
        (c.joined contact position).samples⟩, c.joined contact position) := by
  have up : c.isDown contact = false := by
    rw [isDown, index?_eq_none_iff.mpr new]
    rfl
  simp [goDown, up, joined, motionOf]

theorem move_of_held (here : c.index? contact = some i) (position : Point) :
    c.move contact position =
      (some ⟨Code.move, (c.place contact position).samples⟩, c.place contact position) := by
  simp [move, here, motionOf]

theorem goUp_of_held (here : c.index? contact = some i) (position : Point) :
    c.goUp contact position =
      (some ⟨(Action.up i).toCode (c.place contact position).held.length,
        (c.place contact position).samples⟩, ⟨(c.place contact position).held.eraseIdx i⟩) := by
  simp [goUp, here, motionOf]

theorem cancel_of_held (some_held : c.held ≠ []) :
    c.cancel = (some ⟨Action.cancel.toCode c.held.length, c.samples⟩, empty) := by
  simp [cancel, some_held, motionOf]

theorem held_cancel (c : Contacts) : c.cancel.2.held = [] := by
  by_cases none_held : c.held = []
  · simp [cancel, none_held]
  · rw [cancel_of_held none_held]
    rfl

/-- What a report can do. Either it is about nothing, or it becomes a batch. -/
theorem strike_cases (c : Contacts) (contact : Contact) (stroke : Stroke) (position : Point) :
    c.strike contact stroke position = (none, c) ∨
      (stroke = .goesDown ∧ ∀ s, (contact, s) ∉ c.held) ∨
      (stroke = .moves ∧ ∃ i, c.index? contact = some i) ∨
      (stroke = .goesUp ∧ ∃ i, c.index? contact = some i) ∨
      (stroke = .isCancelled ∧ c.held ≠ []) := by
  cases stroke with
  | goesDown =>
      cases found : c.index? contact with
      | none => exact .inr (.inl ⟨rfl, index?_eq_none_iff.mp found⟩)
      | some i => exact .inl (by simp [strike, goDown, isDown, found])
  | moves =>
      cases found : c.index? contact with
      | none => exact .inl (by simp [strike, move, found])
      | some i => exact .inr (.inr (.inl ⟨rfl, i, rfl⟩))
  | goesUp =>
      cases found : c.index? contact with
      | none => exact .inl (by simp [strike, goUp, found])
      | some i => exact .inr (.inr (.inr (.inl ⟨rfl, i, rfl⟩)))
  | isCancelled =>
      by_cases none_held : c.held = []
      · exact .inl (by simp [strike, cancel, none_held])
      · exact .inr (.inr (.inr (.inr ⟨rfl, none_held⟩)))

theorem strike_of_none {stroke : Stroke} (quiet : (c.strike contact stroke position).1 = none) :
    c.strike contact stroke position = (none, c) := by
  rcases c.strike_cases contact stroke position with
    same | ⟨rfl, new⟩ | ⟨rfl, i, here⟩ | ⟨rfl, i, here⟩ | ⟨rfl, some_held⟩
  · exact same
  · rw [strike, goDown_of_new new] at quiet
    cases quiet
  · rw [strike, move_of_held here] at quiet
    cases quiet
  · rw [strike, goUp_of_held here] at quiet
    cases quiet
  · rw [strike, cancel_of_held some_held] at quiet
    cases quiet

theorem Distinct.joined (distinct : c.Distinct) (new : ∀ s, (contact, s) ∉ c.held)
    (position : Point) : (c.joined contact position).Distinct :=
  distinct.append new c.freeIdentity_not_mem

theorem Distinct.strike (distinct : c.Distinct) (contact : Contact) (stroke : Stroke)
    (position : Point) : (c.strike contact stroke position).2.Distinct := by
  rcases c.strike_cases contact stroke position with
    same | ⟨rfl, new⟩ | ⟨rfl, i, here⟩ | ⟨rfl, i, here⟩ | ⟨rfl, some_held⟩
  · rw [same]
    exact distinct
  · rw [Contacts.strike, goDown_of_new new]
    exact distinct.joined new position
  · rw [Contacts.strike, move_of_held here]
    exact distinct.place contact position
  · rw [Contacts.strike, goUp_of_held here]
    exact (distinct.place contact position).eraseIdx i
  · rw [Contacts.strike, cancel_of_held some_held]
    exact distinct_empty

end Strokes
end Contacts
end SurfaceGate.Desktop
