import SurfaceGate.Input.Code

/-!
Contacts of a pointing device, folded into batches.

A desktop reports one contact at a time: the mouse, or a finger by its number. Each report becomes a
batch that lists every contact that is down, in the order in which they went down, with the code for
what happened. A contact that goes down gets the least identity that is free, and keeps it until it
goes up.
-/

namespace SurfaceGate.Desktop

open Input

inductive Contact where
  | mouse
  | finger (number : Nat)
  deriving DecidableEq, Repr

/-- The contacts that are down, in the order in which they went down. -/
structure Contacts where
  held : List (Contact × Sample)
  deriving DecidableEq, Repr

namespace Contacts

def empty : Contacts := ⟨[]⟩

def samples (c : Contacts) : List Sample :=
  c.held.map Prod.snd

def identities (c : Contacts) : List Identity :=
  c.samples.map Sample.id

def index? (c : Contacts) (contact : Contact) : Option Nat :=
  c.held.findIdx? fun (other, _) => other = contact

def isDown (c : Contacts) (contact : Contact) : Bool :=
  (c.index? contact).isSome

/-- The least identity that no contact has. Among one more candidates than there are contacts, one
is free. -/
def freeIdentity (c : Contacts) : Identity :=
  let candidates := List.range (c.held.length + 1)
  Int.ofNat ((candidates.find? fun (n : Nat) => !c.identities.contains (Int.ofNat n)).getD 0)

def motionOf (c : Contacts) (action : Int) : Motion :=
  ⟨action, c.samples⟩

def place (c : Contacts) (contact : Contact) (position : Point) : Contacts :=
  ⟨c.held.map fun (other, s) =>
    if other = contact then (other, { s with position }) else (other, s)⟩

/-- A contact goes down. Nothing happens if it is down already. -/
def goDown (c : Contacts) (contact : Contact) (position : Point) : Option Motion × Contacts :=
  if c.isDown contact then (none, c)
  else
    let c' : Contacts := ⟨c.held ++ [(contact, ⟨c.freeIdentity, position⟩)]⟩
    (some (c'.motionOf ((Action.down c.held.length).toCode c'.held.length)), c')

def move (c : Contacts) (contact : Contact) (position : Point) : Option Motion × Contacts :=
  match c.index? contact with
  | none => (none, c)
  | some _ =>
      let c' := c.place contact position
      (some (c'.motionOf Code.move), c')

/-- A contact goes up; the batch still lists it. -/
def goUp (c : Contacts) (contact : Contact) (position : Point) : Option Motion × Contacts :=
  match c.index? contact with
  | none => (none, c)
  | some index =>
      let c' := c.place contact position
      (some (c'.motionOf ((Action.up index).toCode c'.held.length)), ⟨c'.held.eraseIdx index⟩)

def cancel (c : Contacts) : Option Motion × Contacts :=
  if c.held.isEmpty then (none, c)
  else (some (c.motionOf (Action.cancel.toCode c.held.length)), empty)

end Contacts
end SurfaceGate.Desktop
