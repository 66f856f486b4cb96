import Mathlib.Data.List.Induction
import SurfaceGate.Proofs.Input.Pointers

/-!
The map of pointers, read off the events.

Whatever the map is used for, the events that come of it tell it: who follows them from an empty map has the
same map in the end. For one pointer the last down or up among them tells whether it is down, and its last
event of any kind tells where.
-/

namespace SurfaceGate.Input

/-- What an event does to a pointer, and where. -/
def Event.touch? (id : Identity) : Event → Option (TouchChange × Point)
  | .touch action pointer position => if pointer = id then some (action, position) else none
  | .key _ _ => none

/-- What events tell of a pointer, in their order. -/
def touchesOf (id : Identity) (events : List Event) : List (TouchChange × Point) :=
  events.filterMap (Event.touch? id)

/-- The last down or up. -/
def lastContact? (touches : List (TouchChange × Point)) : Option TouchChange :=
  (touches.map Prod.fst).reverse.find? (· ≠ .move)

def lastPlace? (touches : List (TouchChange × Point)) : Option Point :=
  touches.getLast?.map Prod.snd

/-- Where a pointer is behind a touch, if it is down. -/
def placed (known : Option Point) : TouchChange × Point → Option Point
  | (.down, position) => some position
  | (.up, _) => none
  | (.move, position) => known.map fun _ => position

section Touches

variable {id : Identity} {touches : List (TouchChange × Point)}

theorem lastContact?_concat (touches : List (TouchChange × Point)) (action : TouchChange) (position : Point) :
    lastContact? (touches ++ [(action, position)]) =
      if action = .move then lastContact? touches else some action := by
  cases action <;> simp [lastContact?]

theorem lastPlace?_concat (touches : List (TouchChange × Point)) (action : TouchChange) (position : Point) :
    lastPlace? (touches ++ [(action, position)]) = some position := by
  simp [lastPlace?]

/-- Who went down is somewhere. -/
theorem exists_lastPlace? {action : TouchChange} (contact : lastContact? touches = some action) :
    ∃ position, lastPlace? touches = some position := by
  rcases List.eq_nil_or_concat touches with rfl | ⟨earlier, ⟨last, position⟩, rfl⟩
  · cases contact
  · rw [List.concat_eq_append] at *
    exact ⟨position, lastPlace?_concat earlier last position⟩

theorem foldl_placed (touches : List (TouchChange × Point)) :
    touches.foldl placed none =
      if lastContact? touches = some .down then lastPlace? touches else none := by
  induction touches using List.reverseRecOn with
  | nil => rfl
  | append_singleton earlier touch ih =>
      obtain ⟨action, position⟩ := touch
      rw [List.foldl_append, ih, lastContact?_concat, lastPlace?_concat]
      cases action with
      | down => rfl
      | up => rfl
      | move =>
          by_cases contact : lastContact? earlier = some .down
          · obtain ⟨known, last⟩ := exists_lastPlace? contact
            simp [placed, contact, last]
          · simp [placed, contact]

end Touches

/-- What a batch means: its action, with the pointers that the action is about. -/
inductive Gesture where
  | down (s : Sample)
  | up (s : Sample)
  | move (samples : List Sample)
  | cancel (samples : List Sample)
  deriving DecidableEq, Repr

/-- A code without an action means nothing, and so does an index that names no pointer of the batch. -/
def Motion.gesture? (m : Motion) : Option Gesture :=
  match Action.ofCode? m.action with
  | none => none
  | some (.down index) => m.samples[index]?.map .down
  | some (.up index) => m.samples[index]?.map .up
  | some .move => some (.move m.samples)
  | some .cancel => some (.cancel m.samples)

/-- What the map of pointers may be used for. -/
inductive Use where
  | motion (batch : Motion)
  | key (pressed : Key)
  | lift
  deriving DecidableEq, Repr

namespace Pointers

/-- The events of a gesture, and the map behind it. -/
def made (p : Pointers) : Gesture → List Event × Pointers
  | .down s => ([s.touch .down], p.insert s)
  | .up s => ([s.touch .up], p.erase s.id)
  | .move samples => (samples.map (·.touch .move), p.followAll samples)
  | .cancel samples => ((p.followAll samples).lifts, empty)

theorem absorb_eq (p : Pointers) (m : Motion) :
    ((p.absorb m).events, (p.absorb m).pointers) = m.gesture?.elim ([], p) p.made := by
  simp only [absorb, Motion.gesture?]
  cases Action.ofCode? m.action with
  | none => rfl
  | some action =>
      cases action with
      | down index =>
          dsimp only
          cases m.samples[index]? <;> rfl
      | up index =>
          dsimp only
          cases m.samples[index]? <;> rfl
      | move => rfl
      | cancel => rfl

/-- The events of a use, and the map behind it. -/
def used (p : Pointers) : Use → List Event × Pointers
  | .motion batch => ((p.absorb batch).events, (p.absorb batch).pointers)
  | .key pressed => (pressed.event?.toList, p)
  | .lift => p.liftAll

def run (p : Pointers) (uses : List Use) : Pointers :=
  uses.foldl (fun p use => (p.used use).2) p

/-- The events of some uses, the oldest first. -/
def emitted (p : Pointers) : List Use → List Event
  | [] => []
  | use :: later => (p.used use).1 ++ (p.used use).2.emitted later

/-- The map of somebody who hears of an event. -/
def heed (p : Pointers) : Event → Pointers
  | .touch .down id position => p.insert ⟨id, position⟩
  | .touch .up id _ => p.erase id
  | .touch .move id position => p.follow ⟨id, position⟩
  | .key _ _ => p

def replay (events : List Event) : Pointers :=
  events.foldl heed empty

section Positions

variable {id : Identity}

theorem position?_insert (p : Pointers) (s : Sample) (id : Identity) :
    (p.insert s).position? id = if id = s.id then some s.position else p.position? id := by
  obtain ⟨active⟩ := p
  simp only [position?, insert]
  induction active with
  | nil =>
      simp only [put, List.lookup_cons, List.lookup_nil]
      grind
  | cons entry rest ih =>
      obtain ⟨other, known⟩ := entry
      simp only [put]
      split
      · simp only [List.lookup_cons]
        grind
      · split
        · simp only [List.lookup_cons]
          grind
        · simp only [List.lookup_cons, ih]
          grind

theorem position?_erase (p : Pointers) (other id : Identity) :
    (p.erase other).position? id = if id = other then none else p.position? id := by
  obtain ⟨active⟩ := p
  simp only [position?, erase]
  induction active with
  | nil => simp
  | cons entry rest ih =>
      obtain ⟨first, known⟩ := entry
      by_cases gone : first = other
      · rw [List.filter_cons_of_neg (by simp [gone]), ih, List.lookup_cons]
        grind
      · rw [List.filter_cons_of_pos (by simp [gone]), List.lookup_cons, ih, List.lookup_cons]
        grind

theorem lookup_map (f : Identity → Point → Point) (active : List (Identity × Point)) (id : Identity) :
    (active.map fun (other, known) => (other, f other known)).lookup id =
      (active.lookup id).map (f id) := by
  induction active with
  | nil => rfl
  | cons entry rest ih =>
      obtain ⟨other, known⟩ := entry
      rw [List.map_cons, List.lookup_cons, List.lookup_cons, ih]
      grind

theorem position?_follow (p : Pointers) (s : Sample) (id : Identity) :
    (p.follow s).position? id =
      if id = s.id then (p.position? id).map fun _ => s.position else p.position? id := by
  have moved := lookup_map (fun other known => if other = s.id then s.position else known) p.active id
  have same : (p.follow s).active =
      p.active.map fun (other, known) => (other, if other = s.id then s.position else known) := by
    refine List.map_congr_left fun entry _ => ?_
    dsimp only
    split
    · rfl
    · rfl
  rw [position?, same, moved]
  split
  · rfl
  · exact Option.map_id'

/-- Of an event only what it does to a pointer counts for this pointer. -/
theorem position?_heed (p : Pointers) (event : Event) (id : Identity) :
    (p.heed event).position? id =
      match event.touch? id with
      | none => p.position? id
      | some touch => placed (p.position? id) touch := by
  cases event with
  | key action code => rfl
  | touch action pointer position =>
      have about : Event.touch? id (.touch action pointer position) =
          if pointer = id then some (action, position) else none := rfl
      rw [about]
      cases action with
      | down =>
          rw [heed, position?_insert]
          by_cases here : pointer = id
          · simp [here, placed]
          · simp [here, Ne.symm here]
      | up =>
          rw [heed, position?_erase]
          by_cases here : pointer = id
          · simp [here, placed]
          · simp [here, Ne.symm here]
      | move =>
          rw [heed, position?_follow]
          by_cases here : pointer = id
          · simp [here, placed]
          · simp [here, Ne.symm here]

theorem position?_foldl_heed (p : Pointers) (events : List Event) (id : Identity) :
    (events.foldl heed p).position? id = (touchesOf id events).foldl placed (p.position? id) := by
  induction events generalizing p with
  | nil => rfl
  | cons event rest ih =>
      rw [List.foldl_cons, ih, position?_heed]
      simp only [touchesOf, List.filterMap_cons]
      cases event.touch? id <;> rfl

end Positions

section Uses

variable {p : Pointers}

theorem foldl_heed_lifts (active : List (Identity × Point)) (p : Pointers) :
    (lifts ⟨active⟩).foldl heed p =
      ⟨p.active.filter fun entry => entry.1 ∉ active.map Prod.fst⟩ := by
  induction active generalizing p with
  | nil => exact congrArg mk (List.filter_eq_self.mpr (by simp)).symm
  | cons entry rest ih =>
      obtain ⟨id, position⟩ := entry
      have others := ih (p.erase id)
      simp only [lifts, List.map_cons, List.foldl_cons] at others ⊢
      rw [heed, others, erase, List.filter_filter]
      congr 2
      funext entry
      grind

/-- A map whose pointers are all lifted, wherever they went before, is empty. -/
theorem foldl_heed_lifts_followAll (p : Pointers) (samples : List Sample) :
    (p.followAll samples).lifts.foldl heed p = empty := by
  have same : (p.followAll samples).active.map Prod.fst = p.active.map Prod.fst := by
    rw [active_followAll, List.map_map]
    rfl
  have lifted := foldl_heed_lifts (p.followAll samples).active p
  rw [same] at lifted
  refine lifted.trans (congrArg mk (List.filter_eq_nil_iff.mpr fun entry there => ?_))
  simpa using ⟨entry.2, there⟩

theorem foldl_heed_made (p : Pointers) (gesture : Gesture) :
    (p.made gesture).1.foldl heed p = (p.made gesture).2 := by
  cases gesture with
  | down s => rfl
  | up s => rfl
  | move samples => exact List.foldl_map
  | cancel samples => exact foldl_heed_lifts_followAll p samples

/-- Who hears the events of a use has the map that the use leaves. -/
theorem foldl_heed_used (p : Pointers) (use : Use) :
    (p.used use).1.foldl heed p = (p.used use).2 := by
  cases use with
  | key pressed =>
      simp only [used]
      cases told : pressed.event? with
      | none => rfl
      | some event =>
          obtain ⟨action, -, rfl⟩ := Option.map_eq_some_iff.mp told
          rfl
  | lift => exact foldl_heed_lifts_followAll p []
  | motion batch =>
      have made := p.absorb_eq batch
      rw [used, made]
      cases batch.gesture? with
      | none => rfl
      | some gesture => exact foldl_heed_made p gesture

theorem foldl_heed_emitted (p : Pointers) (uses : List Use) :
    (p.emitted uses).foldl heed p = p.run uses := by
  induction uses generalizing p with
  | nil => rfl
  | cons use later ih =>
      rw [emitted, List.foldl_append, foldl_heed_used, ih]
      rfl

end Uses

/-- The map is what its events tell: it is the map of somebody who hears them from the start, a pointer is
down if its last down or up was a down, and then it is where its last event was. -/
theorem run_told (uses : List Use) (id : Identity) :
    let left := empty.run uses
    let touches := touchesOf id (empty.emitted uses)
    (left.isDown id = true ↔ lastContact? touches = some .down) ∧
      left.position? id = (if left.isDown id then lastPlace? touches else none) ∧
      replay (empty.emitted uses) = left ∧ (replay (empty.emitted uses)).count = left.count := by
  intro left touches
  have same : replay (empty.emitted uses) = left := foldl_heed_emitted empty uses
  have position : left.position? id =
      if lastContact? touches = some .down then lastPlace? touches else none := by
    rw [← same, replay, position?_foldl_heed]
    exact foldl_placed touches
  have down : left.isDown id = true ↔ lastContact? touches = some .down := by
    rw [isDown, position]
    split
    · next contact =>
        obtain ⟨x, last⟩ := exists_lastPlace? contact
        exact iff_of_true (by rw [last]; rfl) contact
    · next other => exact iff_of_false nofun other
  refine ⟨down, ?_, same, congrArg count same⟩
  rw [position]
  exact if_congr down.symm rfl rfl

end Pointers
end SurfaceGate.Input
