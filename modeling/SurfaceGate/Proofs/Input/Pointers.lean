import SurfaceGate.Input.Pointers
import SurfaceGate.Proofs.Input.Code

/-!
The map of pointers: a list in ascending order of the identities, so a pointer is in it once.

What a batch does to the map is told by membership: which pointers are in it afterwards, and where. A
sample moves a pointer that is in the map and no other, and of several samples the last one counts.
-/

namespace SurfaceGate.Input

namespace Pointers

section Entries

/-- Each pointer is there once, in the order of the identities. -/
def Ascending (active : List (Identity × Point)) : Prop :=
  active.Pairwise fun a b => a.1 < b.1

variable {active : List (Identity × Point)} {id other : Identity} {position x y : Point}

theorem Ascending.nodup (ascending : Ascending active) : active.Nodup := by
  refine List.Pairwise.imp ?_ ascending
  rintro entry _ less rfl
  exact Int.lt_irrefl entry.1 less

theorem mem_put (ascending : Ascending active) :
    (other, x) ∈ put id position active ↔
      (other = id ∧ x = position) ∨ (other ≠ id ∧ (other, x) ∈ active) := by
  induction active with
  | nil => simp [put]
  | cons entry rest ih =>
      obtain ⟨known, place⟩ := entry
      obtain ⟨least, others⟩ := List.pairwise_cons.mp ascending
      have above : (other, x) ∈ rest → known < other := least (other, x)
      have inner := ih others
      simp only [put]
      split
      · next before =>
          have away : (other, x) ∈ (known, place) :: rest → other ≠ id := by
            rintro there rfl
            rcases List.mem_cons.mp there with same | there
            · cases same
              exact Int.lt_irrefl _ before
            · exact Int.lt_irrefl known (Int.lt_trans (above there) before)
          rw [List.mem_cons, Prod.mk.injEq]
          exact or_congr_right (iff_and_self.mpr away)
      · split
        · next same =>
            have away : (other, x) ∈ rest → other ≠ id := by
              rintro there rfl
              exact Int.lt_irrefl known (same ▸ above there)
            grind
        · next different => grind

theorem ascending_put (ascending : Ascending active) : Ascending (put id position active) := by
  induction active with
  | nil => exact List.pairwise_singleton _ _
  | cons entry rest ih =>
      obtain ⟨known, place⟩ := entry
      obtain ⟨least, others⟩ := List.pairwise_cons.mp ascending
      simp only [put]
      split
      · next before =>
          refine List.pairwise_cons.mpr ⟨fun e there => ?_, ascending⟩
          rcases List.mem_cons.mp there with rfl | there
          · exact before
          · exact Int.lt_trans before (least e there)
      · next notBefore =>
          split
          · next same =>
              subst same
              exact List.pairwise_cons.mpr ⟨least, others⟩
          · next different =>
              refine List.pairwise_cons.mpr ⟨fun e there => ?_, ih others⟩
              rcases (mem_put others).mp there with ⟨here, -⟩ | ⟨-, there⟩
              · have behind : known ≤ id := Int.not_lt.mp notBefore
                exact here ▸ Int.lt_iff_le_and_ne.mpr ⟨behind, Ne.symm different⟩
              · exact least e there

theorem length_put_of_new (new : ∀ x, (id, x) ∉ active) :
    (put id position active).length = active.length + 1 := by
  induction active with
  | nil => rfl
  | cons entry rest ih =>
      obtain ⟨known, place⟩ := entry
      have others := ih fun x there => new x (List.mem_cons_of_mem _ there)
      have differs : id ≠ known := by
        rintro rfl
        exact new place List.mem_cons_self
      simp only [put, if_neg differs]
      split
      · rfl
      · rw [List.length_cons, others, List.length_cons]

/-- A pointer is there once, so one goes at most. -/
theorem Ascending.length_le_filter (ascending : Ascending active) (id : Identity) :
    active.length ≤ (active.filter fun (other, _) => other ≠ id).length + 1 := by
  induction active with
  | nil => exact Nat.zero_le _
  | cons entry rest ih =>
      obtain ⟨known, place⟩ := entry
      obtain ⟨least, others⟩ := List.pairwise_cons.mp ascending
      by_cases same : known = id
      · have stay : rest.filter (fun (other, _) => other ≠ id) = rest := by
          refine List.filter_eq_self.mpr fun e there => ?_
          have above : known < e.1 := least e there
          rw [same] at above
          exact decide_eq_true (Int.ne_of_gt above)
        rw [List.filter_cons_of_neg (by simp [same]), stay]
        exact Nat.le_refl _
      · have kept := ih others
        rw [List.filter_cons_of_pos (by simp [same]), List.length_cons, List.length_cons]
        exact Nat.succ_le_succ kept

theorem lookup_eq_some_iff (ascending : Ascending active) :
    active.lookup id = some x ↔ (id, x) ∈ active := by
  induction active with
  | nil => simp
  | cons entry rest ih =>
      obtain ⟨known, place⟩ := entry
      obtain ⟨least, others⟩ := List.pairwise_cons.mp ascending
      by_cases same : id = known
      · subst same
        have gone : (id, x) ∉ rest := fun there => Int.lt_irrefl id (least _ there)
        simp [gone, eq_comm]
      · have differs : (id == known) = false := beq_false_of_ne same
        simp [List.lookup_cons, differs, ih others, same]

end Entries

/-- The map is in order. -/
def Ordered (p : Pointers) : Prop :=
  Ascending p.active

variable {p : Pointers} {s : Sample} {samples : List Sample} {id : Identity} {x : Point}

theorem ordered_empty : empty.Ordered :=
  List.Pairwise.nil

theorem Ordered.position?_eq_some_iff (ordered : p.Ordered) :
    p.position? id = some x ↔ (id, x) ∈ p.active :=
  lookup_eq_some_iff ordered

theorem Ordered.mem_insert (ordered : p.Ordered) :
    (id, x) ∈ (p.insert s).active ↔
      (id = s.id ∧ x = s.position) ∨ (id ≠ s.id ∧ (id, x) ∈ p.active) :=
  mem_put ordered

theorem Ordered.insert (ordered : p.Ordered) (s : Sample) : (p.insert s).Ordered :=
  ascending_put ordered

theorem mem_erase {other : Identity} :
    (id, x) ∈ (p.erase other).active ↔ id ≠ other ∧ (id, x) ∈ p.active := by
  simp [erase, and_comm]

theorem count_insert_of_new (new : ∀ x, (s.id, x) ∉ p.active) : (p.insert s).count = p.count + 1 :=
  length_put_of_new new

theorem Ordered.count_le_erase (ordered : p.Ordered) (id : Identity) :
    p.count ≤ (p.erase id).count + 1 :=
  Ascending.length_le_filter ordered id

theorem Ordered.erase (ordered : p.Ordered) (id : Identity) : (p.erase id).Ordered :=
  List.Pairwise.filter _ ordered

/-- Where a pointer is by the last of some samples that tells of it. -/
def latest (samples : List Sample) (id : Identity) (known : Point) : Point :=
  samples.foldl (fun known s => if id = s.id then s.position else known) known

theorem latest_of_forall_ne (others : ∀ s ∈ samples, s.id ≠ id) (known : Point) :
    latest samples id known = known := by
  induction samples with
  | nil => rfl
  | cons s rest ih =>
      obtain ⟨first, others⟩ := List.forall_mem_cons.mp others
      rw [latest, List.foldl_cons, if_neg (Ne.symm first)]
      exact ih others

theorem latest_of_mem (once : (samples.map Sample.id).Nodup) (told : s ∈ samples) (known : Point) :
    latest samples s.id known = s.position := by
  induction samples generalizing known with
  | nil => cases told
  | cons first rest ih =>
      obtain ⟨fresh, once⟩ := List.nodup_cons.mp once
      rw [latest, List.foldl_cons]
      rcases List.mem_cons.mp told with rfl | told
      · rw [if_pos rfl]
        exact latest_of_forall_ne (fun t there same => fresh (List.mem_map.mpr ⟨t, there, same⟩)) _
      · exact ih once told _

theorem active_followAll (p : Pointers) (samples : List Sample) :
    (p.followAll samples).active = p.active.map fun (id, known) => (id, latest samples id known) := by
  induction samples generalizing p with
  | nil => simp [followAll, latest]
  | cons s rest ih =>
      have tail := ih (p.follow s)
      rw [followAll, List.foldl_cons]
      refine tail.trans ?_
      simp only [follow, List.map_map]
      refine List.map_congr_left fun entry _ => ?_
      obtain ⟨id, known⟩ := entry
      by_cases same : id = s.id
      · simp [latest, same]
      · simp [latest, same]

theorem count_followAll (p : Pointers) (samples : List Sample) :
    (p.followAll samples).count = p.count := by
  rw [count, active_followAll, List.length_map]
  rfl

theorem mem_followAll :
    (id, x) ∈ (p.followAll samples).active ↔
      ∃ known, (id, known) ∈ p.active ∧ latest samples id known = x := by
  rw [active_followAll]
  constructor
  · intro there
    obtain ⟨⟨id, known⟩, before, rfl, rfl⟩ := List.mem_map.mp there
    exact ⟨known, before, rfl⟩
  · rintro ⟨known, before, rfl⟩
    exact List.mem_map.mpr ⟨(id, known), before, rfl⟩

theorem Ordered.followAll (ordered : p.Ordered) (samples : List Sample) :
    (p.followAll samples).Ordered := by
  rw [Ordered, active_followAll]
  exact List.pairwise_map.mpr ordered

/-- A batch leaves the map in order. -/
theorem Ordered.absorb (ordered : p.Ordered) (m : Motion) : (p.absorb m).pointers.Ordered := by
  simp only [Pointers.absorb]
  split
  · exact ordered
  · split
    · exact ordered
    · exact ordered.insert _
  · split
    · exact ordered
    · exact ordered.erase _
  · exact ordered.followAll _
  · exact ordered_empty

section Codes

variable {index count : Nat}

theorem absorb_down (p : Pointers) (named : samples[index % 256]? = some s) :
    p.absorb ⟨(Action.down index).toCode count, samples⟩ = p.goDown s := by
  simp [Pointers.absorb, Action.ofCode?_toCode, Action.narrowed, named]

theorem absorb_up (p : Pointers) (named : samples[index % 256]? = some s) :
    p.absorb ⟨(Action.up index).toCode count, samples⟩ = p.goUp s := by
  simp [Pointers.absorb, Action.ofCode?_toCode, Action.narrowed, named]

theorem absorb_move (p : Pointers) (samples : List Sample) :
    p.absorb ⟨Code.move, samples⟩ = ⟨samples.map (·.touch .move), p.followAll samples, []⟩ :=
  rfl

theorem absorb_cancel (p : Pointers) (samples : List Sample) :
    p.absorb ⟨Action.cancel.toCode count, samples⟩ = ⟨(p.followAll samples).lifts, empty, []⟩ :=
  rfl

end Codes
end Pointers
end SurfaceGate.Input
