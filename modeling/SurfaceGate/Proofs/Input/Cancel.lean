import SurfaceGate.Proofs.Input.Replay

/-!
What a cancelled gesture comes to.

A cancel lifts every pointer that is down, in the order of the identities, and no other. It may still tell
where the pointers are: of several samples of a pointer the last one counts, and a pointer without a sample
goes up where it was. So a cancel is a move, and then the end of all that moved.
-/

namespace SurfaceGate.Input

/-- Where a pointer is by some samples, in their order. -/
def placesOf (id : Identity) (samples : List Sample) : List Point :=
  samples.filterMap fun s => if s.id = id then some s.position else none

/-- Where a pointer is behind some samples that may tell of it. -/
def lastOf (id : Identity) (samples : List Sample) (known : Point) : Point :=
  (placesOf id samples).getLast?.getD known

namespace Pointers

variable {p : Pointers} {id : Identity}

theorem latest_eq_lastOf (samples : List Sample) (id : Identity) (known : Point) :
    latest samples id known = lastOf id samples known := by
  induction samples using List.reverseRecOn with
  | nil => rfl
  | append_singleton earlier s ih =>
      have step : latest (earlier ++ [s]) id known =
          if id = s.id then s.position else latest earlier id known := by
        simp only [latest, List.foldl_append, List.foldl_cons, List.foldl_nil]
      rw [step, ih]
      by_cases here : id = s.id
      · simp [lastOf, placesOf, here]
      · simp [lastOf, placesOf, here, Ne.symm here]

theorem position?_followAll (p : Pointers) (samples : List Sample) (id : Identity) :
    (p.followAll samples).position? id = (p.position? id).map (lastOf id samples) := by
  have moved := lookup_map (fun other known => lastOf other samples known) p.active id
  have same : (p.followAll samples).active =
      p.active.map fun entry => (entry.1, lastOf entry.1 samples entry.2) := by
    simp only [active_followAll, latest_eq_lastOf]
  exact (congrArg (List.lookup id) same).trans moved

theorem lifts_followAll (p : Pointers) (samples : List Sample) :
    (p.followAll samples).lifts =
      p.active.map fun (id, known) => .touch .up id (lastOf id samples known) := by
  rw [lifts, active_followAll, List.map_map]
  refine List.map_congr_left fun entry _ => ?_
  exact congrArg _ (latest_eq_lastOf samples entry.1 entry.2)

/-- A pointer is in an ascending list once, so it goes up once. -/
theorem Ascending.touchesOf_lifts {active : List (Identity × Point)} (ascending : Ascending active)
    (id : Identity) :
    touchesOf id (lifts ⟨active⟩) = (active.lookup id).toList.map fun x => (.up, x) := by
  induction active with
  | nil => rfl
  | cons entry rest ih =>
      obtain ⟨other, known⟩ := entry
      obtain ⟨least, others⟩ := List.pairwise_cons.mp ascending
      have tail := ih others
      have split : touchesOf id (lifts ⟨(other, known) :: rest⟩) =
          (Event.touch? id (.touch .up other known)).toList ++ touchesOf id (lifts ⟨rest⟩) := by
        simp only [touchesOf, lifts, List.map_cons, List.filterMap_cons]
        cases Event.touch? id (.touch .up other known) <;> rfl
      rw [split, tail, List.lookup_cons]
      by_cases here : other = id
      · have gone : rest.lookup id = none := by
          refine Option.eq_none_iff_forall_ne_some.mpr fun x found => ?_
          have above := least _ ((lookup_eq_some_iff others).mp found)
          exact Int.lt_irrefl id (here ▸ above)
        simp [Event.touch?, here, gone]
      · simp [Event.touch?, here, beq_false_of_ne (Ne.symm here)]

theorem Ordered.touchesOf_lifts (ordered : p.Ordered) (id : Identity) :
    touchesOf id p.lifts = (p.position? id).toList.map fun x => (.up, x) :=
  Ascending.touchesOf_lifts ordered id

theorem Ordered.used (ordered : p.Ordered) (use : Use) : (p.used use).2.Ordered := by
  cases use with
  | motion batch => exact ordered.absorb batch
  | key pressed => exact ordered
  | lift => exact ordered_empty

theorem ordered_run (uses : List Use) : (empty.run uses).Ordered := by
  suffices kept : ∀ p : Pointers, p.Ordered → (p.run uses).Ordered from kept empty ordered_empty
  induction uses with
  | nil => exact fun _ ordered => ordered
  | cons use later ih => exact fun p ordered => ih _ (ordered.used use)

theorem Ordered.ids_ascending (ordered : p.Ordered) : p.ids.Pairwise (· < ·) :=
  List.pairwise_map.mpr ordered

/-- What a cancel with some samples makes of a map. -/
structure Cancelled (p : Pointers) (samples : List Sample) (events : List Event) (q : Pointers) :
    Prop where
  /-- The pointers of the map go up in its order. -/
  lifts : events = p.active.map fun (id, known) => .touch .up id (lastOf id samples known)
  /-- Each goes up once, and a pointer that is not in the map does nothing. -/
  each : ∀ id, touchesOf id events =
    (p.position? id).toList.map fun known => (.up, lastOf id samples known)
  forgotten : q = empty
  moved : ∀ code, Action.ofCode? code = some .move →
    (events, q) = (p.absorb ⟨code, samples⟩).pointers.liftAll

theorem Ordered.cancelled (ordered : p.Ordered) (samples : List Sample) :
    p.Cancelled samples (p.made (.cancel samples)).1 (p.made (.cancel samples)).2 where
  lifts := lifts_followAll p samples
  each id := by
    refine ((ordered.followAll samples).touchesOf_lifts id).trans ?_
    rw [position?_followAll]
    cases p.position? id <;> rfl
  forgotten := rfl
  moved code moves := by
    have followed := (Prod.mk.inj (p.absorb_eq ⟨code, samples⟩)).2
    rw [Motion.gesture?, moves] at followed
    rw [followed]
    rfl

/-- However the map came about, a cancel lifts every pointer that is down, once and in the order of the
identities. -/
theorem run_cancels (uses : List Use) (m : Motion) (cancels : Action.ofCode? m.action = some .cancel) :
    let p := empty.run uses
    p.Cancelled m.samples (p.absorb m).events (p.absorb m).pointers ∧
      p.ids.Pairwise (· < ·) ∧ p.ids.length = p.count := by
  intro p
  have ordered := ordered_run uses
  have made : ((p.absorb m).events, (p.absorb m).pointers) = p.made (.cancel m.samples) := by
    rw [absorb_eq, Motion.gesture?, cancels]
    rfl
  obtain ⟨events, pointers⟩ := Prod.mk.inj made
  rw [events, pointers]
  exact ⟨ordered.cancelled m.samples, ordered.ids_ascending, List.length_map _⟩

/-- A cancel under a code with a meaningless third byte lists a pointer twice and one that is not down. -/
theorem run_cancels_listed_twice :
    let here : Point := ⟨⟨1⟩, ⟨2⟩⟩
    let there : Point := ⟨⟨3⟩, ⟨4⟩⟩
    let p := empty.run [.motion ⟨0, [⟨7, here⟩]⟩, .motion ⟨0, [⟨-2, here⟩]⟩]
    let m : Motion := ⟨0x10003, [⟨7, here⟩, ⟨5, here⟩, ⟨7, there⟩]⟩
    Action.ofCode? m.action = some .cancel ∧
      (p.absorb m).events = [.touch .up (-2) here, .touch .up 7 there] ∧
      p.Cancelled m.samples (p.absorb m).events (p.absorb m).pointers := by
  intro here there p m
  have cancels : Action.ofCode? m.action = some .cancel := by decide
  exact ⟨cancels, by decide, (run_cancels _ m cancels).1⟩

end Pointers
end SurfaceGate.Input
