import SurfaceGate.Proofs.Input.Cancel

/-!
Pointers are apart.

A batch is about several pointers at once, and of each it says something of its own. What becomes of one
pointer depends on what the batches say of this pointer: neither the other pointers of a batch nor the other
pointers of the map show in its events or in its place.
-/

namespace SurfaceGate.Input

/-- What a batch says of one pointer. -/
inductive Word where
  | down (position : Point)
  | up (position : Point)
  | move (positions : List Point)
  | cancel (positions : List Point)
  deriving DecidableEq, Repr

/-- A move that leaves a pointer out says as little of it as a batch that means nothing. -/
def Word.nothing : Word :=
  .move []

def Gesture.word (id : Identity) : Gesture → Word
  | .down s => if s.id = id then .down s.position else .nothing
  | .up s => if s.id = id then .up s.position else .nothing
  | .move samples => .move (placesOf id samples)
  | .cancel samples => .cancel (placesOf id samples)

def Motion.word (id : Identity) (m : Motion) : Word :=
  m.gesture?.elim .nothing (Gesture.word id)

/-- The touches of a pointer that follow from a word about it; `known` is where it is if it is down. -/
def Word.touches (known : Option Point) : Word → List (TouchChange × Point)
  | .down position => [(.down, position)]
  | .up position => [(.up, position)]
  | .move positions => positions.map fun position => (.move, position)
  | .cancel positions => known.toList.map fun position => (.up, positions.getLast?.getD position)

/-- The events of a pointer among others, in their order. -/
def eventsOf (id : Identity) (events : List Event) : List Event :=
  events.filter fun event => (event.touch? id).isSome

section Events

variable {id : Identity}

theorem eventsOf_eq_map (events : List Event) :
    eventsOf id events = (touchesOf id events).map fun (action, position) => .touch action id position := by
  induction events with
  | nil => rfl
  | cons event rest ih =>
      cases event with
      | key action code => exact ih
      | touch action pointer position =>
          by_cases here : pointer = id
          · subst here
            simpa [eventsOf, touchesOf, Event.touch?] using ih
          · simpa [eventsOf, touchesOf, Event.touch?, here] using ih

theorem touchesOf_touch (s : Sample) (action : TouchChange) :
    touchesOf id [s.touch action] = if s.id = id then [(action, s.position)] else [] := by
  simp only [touchesOf, Sample.touch, List.filterMap_cons, List.filterMap_nil, Event.touch?]
  split <;> simp_all

theorem touchesOf_moves (samples : List Sample) :
    touchesOf id (samples.map (·.touch .move)) =
      (placesOf id samples).map fun position => (.move, position) := by
  rw [touchesOf, placesOf, List.filterMap_map, List.map_filterMap]
  congr 1
  funext s
  simp only [Function.comp_apply, Sample.touch, Event.touch?]
  split <;> rfl

end Events

/-- What shows of a pointer behind a batch. -/
structure Shown where
  events : List Event
  isDown : Bool
  position : Option Point
  deriving DecidableEq, Repr

namespace Pointers

variable {p q : Pointers} {id : Identity}

/-- What shows of a pointer behind each of some batches. -/
def shows (p : Pointers) (id : Identity) : List Motion → List Shown
  | [] => []
  | m :: later =>
      let left := p.absorb m
      ⟨eventsOf id left.events, left.pointers.isDown id, left.pointers.position? id⟩ ::
        left.pointers.shows id later

theorem Ordered.touchesOf_made (ordered : p.Ordered) (gesture : Gesture) :
    touchesOf id (p.made gesture).1 = (gesture.word id).touches (p.position? id) := by
  cases gesture with
  | down s | up s =>
      rw [made, touchesOf_touch, Gesture.word]
      split <;> rfl
  | move samples => exact touchesOf_moves samples
  | cancel samples => exact (ordered.cancelled samples).each id

/-- A batch makes of a pointer what it says of this pointer. -/
theorem Ordered.touchesOf_absorb (ordered : p.Ordered) (m : Motion) :
    touchesOf id (p.absorb m).events = (m.word id).touches (p.position? id) := by
  obtain ⟨events, -⟩ := Prod.mk.inj (p.absorb_eq m)
  rw [events, Motion.word]
  cases m.gesture? with
  | none => rfl
  | some gesture => exact ordered.touchesOf_made gesture

theorem position?_absorb (p : Pointers) (m : Motion) (id : Identity) :
    (p.absorb m).pointers.position? id =
      (touchesOf id (p.absorb m).events).foldl placed (p.position? id) := by
  have told : (p.absorb m).events.foldl heed p = (p.absorb m).pointers := foldl_heed_used p (.motion m)
  rw [← told, position?_foldl_heed]

/-- Two maps that agree about a pointer still do behind batches that say the same of it. -/
theorem Ordered.shows_eq (ordered : p.Ordered) (ordered' : q.Ordered)
    (agree : p.position? id = q.position? id) {batches batches' : List Motion}
    (same : batches.map (Motion.word id) = batches'.map (Motion.word id)) :
    p.shows id batches = q.shows id batches' := by
  induction batches generalizing p q batches' with
  | nil => rw [List.map_eq_nil_iff.mp same.symm]; rfl
  | cons m later ih =>
      obtain ⟨m', later', rfl, word, words⟩ := List.map_eq_cons_iff.mp same.symm
      have touches : touchesOf id (p.absorb m).events = touchesOf id (q.absorb m').events := by
        rw [ordered.touchesOf_absorb, ordered'.touchesOf_absorb, agree, word]
      have behind : (p.absorb m).pointers.position? id = (q.absorb m').pointers.position? id := by
        rw [position?_absorb, position?_absorb, touches, agree]
      rw [shows, shows, ih (ordered.absorb m) (ordered'.absorb m') behind words.symm]
      simp only [eventsOf_eq_map, isDown, touches, behind]

/-- Pointers do not interfere: from maps that agree about a pointer, batches that one by one say the same of
it show the same of it, whatever they say of others and whatever the maps hold besides. -/
theorem run_separates (uses uses' : List Use) (id : Identity) (batches batches' : List Motion)
    (agree : (empty.run uses).position? id = (empty.run uses').position? id)
    (same : batches.map (Motion.word id) = batches'.map (Motion.word id)) :
    (empty.run uses).shows id batches = (empty.run uses').shows id batches' :=
  (ordered_run uses).shows_eq (ordered_run uses') agree same

/-- One run is about a pointer alone. The other knows a second pointer, names the first at another index,
moves the second where the one run means nothing, and cancels both. -/
theorem run_separates_beside_another :
    let here : Point := ⟨⟨1⟩, ⟨2⟩⟩
    let there : Point := ⟨⟨3⟩, ⟨4⟩⟩
    let alone : List Motion := [⟨0, [⟨7, here⟩]⟩, ⟨8, []⟩, ⟨2, [⟨7, there⟩]⟩, ⟨3, []⟩]
    let beside : List Motion :=
      [⟨0x105, [⟨4, there⟩, ⟨7, here⟩]⟩, ⟨2, [⟨4, here⟩]⟩, ⟨2, [⟨4, here⟩, ⟨7, there⟩]⟩, ⟨3, [⟨4, there⟩]⟩]
    let other := empty.run [.motion ⟨0, [⟨4, here⟩]⟩]
    alone.map (Motion.word 7) = beside.map (Motion.word 7) ∧
      empty.shows 7 alone = other.shows 7 beside ∧
      empty.shows 7 alone =
        [⟨[.touch .down 7 here], true, some here⟩, ⟨[], true, some here⟩,
          ⟨[.touch .move 7 there], true, some there⟩, ⟨[.touch .up 7 there], false, none⟩] := by
  intro here there alone beside other
  have same : alone.map (Motion.word 7) = beside.map (Motion.word 7) := by decide
  exact ⟨same, run_separates [] [.motion ⟨0, [⟨4, here⟩]⟩] 7 alone beside (by decide) same, by decide⟩

end Pointers
end SurfaceGate.Input
