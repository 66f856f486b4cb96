import SurfaceGate.Proofs.Desktop.Contacts
import SurfaceGate.Proofs.Input.Pointers

/-!
Contacts, and the pointers that follow their batches.

A code has one byte for an index, so with more than 256 contacts a batch may name another pointer than the
one that it is about. The pointer that it names is one of the first 256 then, and those that are down are
among these: the index of a contact only falls. So whatever the batches name, no pointer outlives its
contact. With at most 256 contacts pointers and contacts are the same.
-/

namespace SurfaceGate.Desktop

open Input

/-- One report of a pointing device. -/
structure Touch where
  contact : Contact
  stroke : Stroke
  position : Point

structure Touches where
  contacts : Contacts
  pointers : Pointers

namespace Touches

def start : Touches := ⟨.empty, .empty⟩

/-- What a report does, with the events that come of its batch. -/
def strike (t : Touches) (touch : Touch) : List Event × Touches :=
  match t.contacts.strike touch.contact touch.stroke touch.position with
  | (none, contacts) => ([], ⟨contacts, t.pointers⟩)
  | (some batch, contacts) =>
      ((t.pointers.absorb batch).events, ⟨contacts, (t.pointers.absorb batch).pointers⟩)

def run (t : Touches) (touches : List Touch) : Touches :=
  touches.foldl (fun t touch => (t.strike touch).2) t

theorem run_append (t : Touches) (first second : List Touch) :
    t.run (first ++ second) = (t.run first).run second :=
  List.foldl_append

/-- A pointer that is down is a contact among the first 256, and where this contact is. -/
structure Covered (t : Touches) : Prop where
  distinct : t.contacts.Distinct
  ordered : t.pointers.Ordered
  covered : ∀ id x, (id, x) ∈ t.pointers.active →
    ∃ i < 256, ∃ contact, t.contacts.held[i]? = some (contact, ⟨id, x⟩)

/-- Besides, every contact is a pointer that is down. -/
structure Matched (t : Touches) : Prop extends Covered t where
  few : t.contacts.held.length ≤ 256
  complete : ∀ contact s, (contact, s) ∈ t.contacts.held → (s.id, s.position) ∈ t.pointers.active

section Strikes

variable {t : Touches} {contact : Contact} {i : Nat} {position : Point}

theorem contacts_strike (t : Touches) (touch : Touch) : (t.strike touch).2.contacts =
    (t.contacts.strike touch.contact touch.stroke touch.position).2 := by
  rw [strike]
  cases t.contacts.strike touch.contact touch.stroke touch.position with
  | mk batch contacts => cases batch <;> rfl

theorem strike_of_none {touch : Touch}
    (quiet : (t.contacts.strike touch.contact touch.stroke touch.position) = (none, t.contacts)) :
    t.strike touch = ([], t) := by
  rw [strike, quiet]

/-- A contact that goes down brings a pointer down: its own, or the one that its index is taken for. -/
theorem strike_down (new : ∀ s, (contact, s) ∉ t.contacts.held) (position : Point) :
    ∃ d s, (t.contacts.joined contact position).held[t.contacts.held.length % 256]? = some (d, s) ∧
      t.strike ⟨contact, .goesDown, position⟩ =
        ([s.touch .down], ⟨t.contacts.joined contact position, t.pointers.insert s⟩) := by
  have bound : t.contacts.held.length % 256 < (t.contacts.joined contact position).held.length := by
    simp only [Contacts.joined, List.length_append, List.length_singleton]
    omega
  obtain ⟨d, s, here⟩ := Contacts.exists_of_lt bound
  refine ⟨d, s, here, ?_⟩
  rw [strike, Contacts.strike, Contacts.goDown_of_new new]
  simp only [Pointers.absorb_down _ (Contacts.samples_getElem? here), Pointers.goDown]

theorem strike_up (found : t.contacts.index? contact = some i) (position : Point) :
    ∃ d s, (t.contacts.place contact position).held[i % 256]? = some (d, s) ∧
      t.strike ⟨contact, .goesUp, position⟩ =
        ([s.touch .up],
          ⟨⟨(t.contacts.place contact position).held.eraseIdx i⟩, t.pointers.erase s.id⟩) := by
  have bound : i % 256 < (t.contacts.place contact position).held.length := by
    obtain ⟨s, here⟩ := Contacts.exists_of_index? found
    have inside := (List.getElem?_eq_some_iff.mp here).1
    rw [Contacts.held_place, List.length_map]
    omega
  obtain ⟨d, s, here⟩ := Contacts.exists_of_lt bound
  refine ⟨d, s, here, ?_⟩
  rw [strike, Contacts.strike, Contacts.goUp_of_held found]
  simp only [Pointers.absorb_up _ (Contacts.samples_getElem? here), Pointers.goUp]

theorem strike_move (found : t.contacts.index? contact = some i) (position : Point) :
    t.strike ⟨contact, .moves, position⟩ =
      ((t.contacts.place contact position).samples.map (·.touch .move),
        ⟨t.contacts.place contact position,
          t.pointers.followAll (t.contacts.place contact position).samples⟩) := by
  rw [strike, Contacts.strike, Contacts.move_of_held found]
  simp only [Pointers.absorb_move]

theorem strike_cancel (contact : Contact) (some_held : t.contacts.held ≠ []) (position : Point) :
    t.strike ⟨contact, .isCancelled, position⟩ =
      ((t.pointers.followAll t.contacts.samples).lifts, start) := by
  rw [strike, Contacts.strike, Contacts.cancel_of_held some_held]
  simp only [Pointers.absorb_cancel]
  rfl

end Strikes

section Steps

variable {t : Touches} {touch : Touch}

theorem covered_start : start.Covered :=
  ⟨Contacts.distinct_empty, Pointers.ordered_empty, nofun⟩

/-- Taking a contact out of the row moves those behind it forward. -/
theorem exists_getElem?_eraseIdx {α : Type} {row : List α} {i j : Nat} {a : α} (elsewhere : j ≠ i)
    (there : row[j]? = some a) : ∃ k ≤ j, (row.eraseIdx i)[k]? = some a := by
  by_cases before : j < i
  · refine ⟨j, Nat.le_refl j, ?_⟩
    rw [List.getElem?_eraseIdx, if_pos before, there]
  · refine ⟨j - 1, Nat.sub_le j 1, ?_⟩
    have behind : j - 1 + 1 = j := by omega
    rw [List.getElem?_eraseIdx, if_neg (by omega), behind, there]

theorem latest_of_held {c : Contacts} (distinct : c.Distinct) {i : Nat} {contact : Contact}
    {s : Sample} (here : c.held[i]? = some (contact, s)) (known : Point) :
    Pointers.latest c.samples s.id known = s.position :=
  Pointers.latest_of_mem distinct.identities (List.mem_of_getElem? (Contacts.samples_getElem? here))
    known

theorem Covered.down (covered : t.Covered) {contact : Contact}
    (new : ∀ s, (contact, s) ∉ t.contacts.held) (position : Point) :
    (t.strike ⟨contact, .goesDown, position⟩).2.Covered := by
  obtain ⟨d, s, named, struck⟩ := strike_down new position
  rw [struck]
  refine ⟨covered.distinct.joined new position, covered.ordered.insert s, fun id x there => ?_⟩
  rcases covered.ordered.mem_insert.mp there with ⟨rfl, rfl⟩ | ⟨-, before⟩
  · exact ⟨_, Nat.mod_lt _ (by decide), d, named⟩
  · obtain ⟨i, low, e, held⟩ := covered.covered id x before
    refine ⟨i, low, e, ?_⟩
    have bound := (List.getElem?_eq_some_iff.mp held).1
    rw [Contacts.joined, List.getElem?_append_left bound, held]

theorem Covered.move (covered : t.Covered) {contact : Contact} {i : Nat}
    (found : t.contacts.index? contact = some i) (position : Point) :
    (t.strike ⟨contact, .moves, position⟩).2.Covered := by
  have placed := covered.distinct.place contact position
  rw [strike_move found]
  refine ⟨placed, covered.ordered.followAll _, fun id x there => ?_⟩
  obtain ⟨known, before, rfl⟩ := Pointers.mem_followAll.mp there
  obtain ⟨j, low, d, held⟩ := covered.covered id known before
  obtain ⟨x, moved⟩ := Contacts.exists_held_place contact position held
  refine ⟨j, low, d, ?_⟩
  rw [latest_of_held placed moved]
  exact moved

theorem Covered.up (covered : t.Covered) {contact : Contact} {i : Nat}
    (found : t.contacts.index? contact = some i) (position : Point) :
    (t.strike ⟨contact, .goesUp, position⟩).2.Covered := by
  have placed := covered.distinct.place contact position
  obtain ⟨d, s, named, struck⟩ := strike_up found position
  obtain ⟨old, lifted⟩ := Contacts.exists_of_index? found
  rw [struck]
  refine ⟨placed.eraseIdx i, covered.ordered.erase s.id, fun id x there => ?_⟩
  obtain ⟨differs, before⟩ := Pointers.mem_erase.mp there
  obtain ⟨j, low, e, held⟩ := covered.covered id x before
  -- If the contact is beyond the first 256, the pointer that goes is another one.
  have elsewhere : j ≠ i := by
    rintro rfl
    obtain ⟨y, moved⟩ := Contacts.exists_held_place contact position held
    rw [Nat.mod_eq_of_lt low, moved] at named
    cases named
    exact differs rfl
  have still := (covered.distinct.getElem?_place_of_ne lifted elsewhere position).trans held
  obtain ⟨k, behind, kept⟩ := exists_getElem?_eraseIdx elsewhere still
  exact ⟨k, Nat.lt_of_le_of_lt behind low, e, kept⟩

theorem Covered.strike (covered : t.Covered) (touch : Touch) : (t.strike touch).2.Covered := by
  obtain ⟨contact, stroke, position⟩ := touch
  rcases t.contacts.strike_cases contact stroke position with
    quiet | ⟨rfl, new⟩ | ⟨rfl, i, found⟩ | ⟨rfl, i, found⟩ | ⟨rfl, some_held⟩
  · rw [strike_of_none quiet]
    exact covered
  · exact covered.down new position
  · exact covered.move found position
  · exact covered.up found position
  · rw [strike_cancel contact some_held]
    exact covered_start

theorem Matched.down (matched : t.Matched) {contact : Contact}
    (new : ∀ s, (contact, s) ∉ t.contacts.held) (position : Point)
    (room : t.contacts.held.length < 256) :
    (t.strike ⟨contact, .goesDown, position⟩).2.Matched := by
  have covered := matched.toCovered.down new position
  obtain ⟨d, s, named, struck⟩ := strike_down new position
  have own : (d, s) = (contact, ⟨t.contacts.freeIdentity, position⟩) := by
    rw [Nat.mod_eq_of_lt room, Contacts.joined, List.getElem?_concat_length] at named
    exact (Option.some.inj named).symm
  cases own
  rw [struck] at covered ⊢
  refine ⟨covered, ?_, fun e u there => ?_⟩
  · simp only [Contacts.joined, List.length_append, List.length_singleton]
    omega
  · refine matched.ordered.mem_insert.mpr ?_
    rcases List.mem_append.mp there with before | here
    · have other : u.id ≠ t.contacts.freeIdentity := by
        intro same
        have taken : u.id ∈ t.contacts.identities :=
          List.mem_map.mpr ⟨u, List.mem_map.mpr ⟨(e, u), before, rfl⟩, rfl⟩
        exact t.contacts.freeIdentity_not_mem (same ▸ taken)
      exact .inr ⟨other, matched.complete e u before⟩
    · cases List.mem_singleton.mp here
      exact .inl ⟨rfl, rfl⟩

theorem Matched.move (matched : t.Matched) {contact : Contact} {i : Nat}
    (found : t.contacts.index? contact = some i) (position : Point) :
    (t.strike ⟨contact, .moves, position⟩).2.Matched := by
  have covered := matched.toCovered.move found position
  rw [strike_move found] at covered ⊢
  refine ⟨covered, ?_, fun e u there => ?_⟩
  · rw [Contacts.held_place, List.length_map]
    exact matched.few
  · obtain ⟨j, here⟩ := List.mem_iff_getElem?.mp there
    have before := (Contacts.getElem?_place t.contacts contact position j).symm.trans here
    obtain ⟨⟨d, s⟩, held, same⟩ := Option.map_eq_some_iff.mp before
    have id : u.id = s.id := by
      rw [← Contacts.placed_id contact position (d, s), same]
    refine Pointers.mem_followAll.mpr ⟨s.position, ?_, latest_of_held covered.distinct here _⟩
    rw [id]
    exact matched.complete d s (List.mem_of_getElem? held)

theorem Matched.up (matched : t.Matched) {contact : Contact} {i : Nat}
    (found : t.contacts.index? contact = some i) (position : Point) :
    (t.strike ⟨contact, .goesUp, position⟩).2.Matched := by
  have covered := matched.toCovered.up found position
  have placed := matched.distinct.place contact position
  obtain ⟨d, s, named, struck⟩ := strike_up found position
  obtain ⟨old, lifted⟩ := Contacts.exists_of_index? found
  have low : i < 256 := Nat.lt_of_lt_of_le (List.getElem?_eq_some_iff.mp lifted).1 matched.few
  rw [Nat.mod_eq_of_lt low] at named
  rw [struck] at covered ⊢
  refine ⟨covered, ?_, fun e u there => ?_⟩
  · refine Nat.le_trans (List.length_eraseIdx_le _ _) ?_
    rw [Contacts.held_place, List.length_map]
    exact matched.few
  · obtain ⟨j, elsewhere, here⟩ := List.mem_eraseIdx_iff_getElem?.mp there
    have held := (matched.distinct.getElem?_place_of_ne lifted elsewhere position).symm.trans here
    refine Pointers.mem_erase.mpr ⟨fun same => ?_, matched.complete e u (List.mem_of_getElem? held)⟩
    exact elsewhere (placed.index_eq_of_identity here named same)

theorem matched_start : start.Matched :=
  ⟨covered_start, Nat.zero_le _, nofun⟩

theorem Matched.strike (matched : t.Matched) (touch : Touch)
    (few : (t.strike touch).2.contacts.held.length ≤ 256) : (t.strike touch).2.Matched := by
  obtain ⟨contact, stroke, position⟩ := touch
  rcases t.contacts.strike_cases contact stroke position with
    quiet | ⟨rfl, new⟩ | ⟨rfl, i, found⟩ | ⟨rfl, i, found⟩ | ⟨rfl, some_held⟩
  · rw [strike_of_none quiet]
    exact matched
  · refine matched.down new position ?_
    obtain ⟨_, _, -, struck⟩ := strike_down new position
    rw [struck] at few
    simp only [Contacts.joined, List.length_append, List.length_singleton] at few
    omega
  · exact matched.move found position
  · exact matched.up found position
  · rw [strike_cancel contact some_held]
    exact matched_start

theorem Covered.run (covered : t.Covered) (touches : List Touch) : (t.run touches).Covered := by
  induction touches generalizing t with
  | nil => exact covered
  | cons touch later ih => exact ih (covered.strike touch)

theorem Matched.run (matched : t.Matched) (touches : List Touch)
    (few : ∀ earlier, earlier <+: touches → (t.run earlier).contacts.held.length ≤ 256) :
    (t.run touches).Matched := by
  induction touches generalizing t with
  | nil => exact matched
  | cons touch later ih =>
      have first := few [touch] ⟨later, rfl⟩
      refine ih (matched.strike touch first) fun earlier before => ?_
      exact few (touch :: earlier) (List.cons_prefix_cons.mpr ⟨rfl, before⟩)

end Steps

section Agreement

variable {t : Touches}

/-- Pointers that are down are contacts, each where its contact is. -/
structure Follows (t : Touches) : Prop where
  once : t.contacts.identities.Nodup
  follows : ∀ id x, t.pointers.position? id = some x → ∃ contact, (contact, ⟨id, x⟩) ∈ t.contacts.held
  empty : t.contacts.held = [] → t.pointers = .empty
  quiet : ∀ touch : Touch, (t.contacts.strike touch.contact touch.stroke touch.position).1 = none →
    t.strike touch = ([], t)

/-- Pointers and contacts are the same, and the events of a report say what happened to the contacts. -/
structure Agrees (t : Touches) : Prop where
  same : ∀ id x, t.pointers.position? id = some x ↔ ∃ contact, (contact, ⟨id, x⟩) ∈ t.contacts.held
  down : ∀ contact position, (∀ s, (contact, s) ∉ t.contacts.held) → t.contacts.held.length < 256 →
    ∃ id, (t.strike ⟨contact, .goesDown, position⟩).1 = [.touch .down id position] ∧
      (t.strike ⟨contact, .goesDown, position⟩).2.contacts.held =
        t.contacts.held ++ [(contact, ⟨id, position⟩)]
  up : ∀ contact s position, (contact, s) ∈ t.contacts.held →
    (t.strike ⟨contact, .goesUp, position⟩).1 = [.touch .up s.id position]
  move : ∀ contact s position, (contact, s) ∈ t.contacts.held →
    (t.strike ⟨contact, .moves, position⟩).1 =
      (t.strike ⟨contact, .moves, position⟩).2.contacts.samples.map (·.touch .move)
  cancel : ∀ contact position, t.contacts.held ≠ [] → ∃ lifted : List Sample,
    lifted.Perm t.contacts.samples ∧ lifted.Pairwise (fun a b => a.id < b.id) ∧
      (t.strike ⟨contact, .isCancelled, position⟩).1 = lifted.map (·.touch .up)

theorem Covered.mem_held (covered : t.Covered) {id : Identity} {x : Point}
    (there : (id, x) ∈ t.pointers.active) : ∃ contact, (contact, ⟨id, x⟩) ∈ t.contacts.held := by
  obtain ⟨i, -, contact, here⟩ := covered.covered id x there
  exact ⟨contact, List.mem_of_getElem? here⟩

theorem Covered.follows (covered : t.Covered) : t.Follows where
  once := covered.distinct.identities
  follows id x there := covered.mem_held (covered.ordered.position?_eq_some_iff.mp there)
  empty none_held := by
    have gone : t.pointers.active = [] := by
      refine List.eq_nil_iff_forall_not_mem.mpr fun ⟨id, x⟩ there => ?_
      obtain ⟨contact, held⟩ := covered.mem_held there
      rw [none_held] at held
      cases held
    exact congrArg Pointers.mk gone
  quiet touch quiet := strike_of_none (Contacts.strike_of_none quiet)

/-- The batch of a cancel tells no pointer where it is that was not known already. -/
theorem Covered.followAll_eq (covered : t.Covered) :
    t.pointers.followAll t.contacts.samples = t.pointers := by
  have still : (t.pointers.followAll t.contacts.samples).active = t.pointers.active := by
    rw [Pointers.active_followAll]
    refine (List.map_congr_left fun entry there => ?_).trans (List.map_id _)
    obtain ⟨i, -, contact, here⟩ := covered.covered entry.1 entry.2 there
    exact Prod.ext rfl (latest_of_held covered.distinct here entry.2)
  exact congrArg Pointers.mk still

def lifted (p : Pointers) : List Sample :=
  p.active.map fun (id, x) => ⟨id, x⟩

theorem Matched.perm_lifted (matched : t.Matched) : (lifted t.pointers).Perm t.contacts.samples := by
  have once : (lifted t.pointers).Nodup := by
    refine matched.ordered.nodup.map fun a b same => ?_
    exact Prod.ext (congrArg Sample.id same) (congrArg Sample.position same)
  refine (List.perm_ext_iff_of_nodup once (List.Nodup.of_map _ matched.distinct.identities)).mpr ?_
  intro s
  constructor
  · intro there
    obtain ⟨⟨id, x⟩, active, rfl⟩ := List.mem_map.mp there
    obtain ⟨contact, held⟩ := matched.mem_held active
    exact List.mem_map.mpr ⟨_, held, rfl⟩
  · intro there
    obtain ⟨⟨contact, s⟩, held, rfl⟩ := List.mem_map.mp there
    exact List.mem_map.mpr ⟨_, matched.complete contact s held, rfl⟩

theorem Matched.agrees (matched : t.Matched) : t.Agrees where
  same id x := by
    rw [matched.ordered.position?_eq_some_iff]
    constructor
    · exact matched.mem_held
    · rintro ⟨contact, held⟩
      exact matched.complete contact _ held
  down contact position new room := by
    obtain ⟨d, s, named, struck⟩ := strike_down new position
    rw [Nat.mod_eq_of_lt room, Contacts.joined, List.getElem?_concat_length] at named
    cases named
    refine ⟨t.contacts.freeIdentity, ?_, ?_⟩
    · rw [struck]
      rfl
    · rw [struck]
      rfl
  up contact s position held := by
    obtain ⟨i, here⟩ := List.mem_iff_getElem?.mp held
    have low : i < 256 := Nat.lt_of_lt_of_le (List.getElem?_eq_some_iff.mp here).1 matched.few
    obtain ⟨d, u, named, struck⟩ := strike_up (matched.distinct.index?_eq_some here) position
    rw [Nat.mod_eq_of_lt low, Contacts.getElem?_place_self here] at named
    cases named
    rw [struck]
    rfl
  move contact s position held := by
    obtain ⟨i, found⟩ := Contacts.exists_index? held
    rw [strike_move found]
  cancel contact position some_held := by
    refine ⟨lifted t.pointers, matched.perm_lifted, List.pairwise_map.mpr matched.ordered, ?_⟩
    rw [strike_cancel contact some_held, matched.followAll_eq, Pointers.lifts, lifted, List.map_map]
    rfl

/-- Whatever the reports are, the pointers follow the contacts. As long as there were at most 256 contacts
since the last time that there was none, they are the same. -/
theorem run_follows (before since : List Touch) :
    (start.run (before ++ since)).Follows ∧
      ((start.run before).contacts.held = [] →
        (∀ earlier, earlier <+: since → (start.run (before ++ earlier)).contacts.held.length ≤ 256) →
        (start.run (before ++ since)).Agrees) := by
  refine ⟨(covered_start.run _).follows, fun none_held few => ?_⟩
  have covered := covered_start.run before
  have matched : (start.run before).Matched := by
    refine ⟨covered, ?_, fun contact s there => ?_⟩
    · rw [none_held]
      exact Nat.zero_le _
    · rw [none_held] at there
      cases there
  rw [run_append]
  refine (matched.run since fun earlier before => ?_).agrees
  rw [← run_append]
  exact few earlier before

/-- A finger goes up beside the mouse, and the next one gets its identity. -/
theorem run_follows_reused :
    let here : Point := ⟨⟨0⟩, ⟨0⟩⟩
    let touches : List Touch :=
      [⟨.finger 7, .goesDown, here⟩, ⟨.mouse, .goesDown, here⟩, ⟨.finger 7, .goesUp, here⟩,
        ⟨.finger 8, .goesDown, here⟩]
    (start.run touches).contacts.held = [(.mouse, ⟨1, here⟩), (.finger 8, ⟨0, here⟩)] ∧
      (start.run touches).Agrees := by
  intro here touches
  refine ⟨by decide, (run_follows [] touches).2 rfl fun earlier before => ?_⟩
  have few : ∀ earlier ∈ touches.inits, (start.run earlier).contacts.held.length ≤ 256 := by decide
  exact few earlier ((List.mem_inits _ _).mpr before)

end Agreement
end Touches
end SurfaceGate.Desktop
