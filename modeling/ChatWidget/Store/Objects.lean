import ChatWidget.Store.Path
/-!
Trees with shared mappings. A mapping that was read from a tree and put at a second place is one mapping
with two places: what is written through one shows at the other. So each mapping is an object with a
number, and an entry holds either a value that is no mapping, which nobody changes, or the number of an
object.
-/
namespace ChatWidget

abbrev ObjectId := Nat

inductive Slot where
  | value (v : Json)
  | object (id : ObjectId)
deriving Inhabited

/-- Mappings by number. -/
structure Objects where
  entries : Array (Entries Slot) := #[]
deriving Inhabited

namespace Objects

def fields (objects : Objects) (id : ObjectId) : Entries Slot := objects.entries.getD id []

def setFields (objects : Objects) (id : ObjectId) (fields : Entries Slot) : Objects :=
  ⟨objects.entries.setIfInBounds id fields⟩

def add (objects : Objects) (fields : Entries Slot) : ObjectId × Objects :=
  (objects.entries.size, ⟨objects.entries.push fields⟩)

mutual

/-- Take a value in: each mapping in it that a path can reach becomes an object of its own. -/
def takeIn : Json → Objects → Slot × Objects
  | .obj fields, objects =>
    let (fields, objects) := takeInFields fields objects
    let (id, objects) := objects.add fields
    (.object id, objects)
  | value, objects => (.value value, objects)

def takeInFields : List (String × Json) → Objects → Entries Slot × Objects
  | [], objects => ([], objects)
  | (name, value) :: rest, objects =>
    let (slot, objects) := takeIn value objects
    let (slots, objects) := takeInFields rest objects
    ((name, slot) :: slots, objects)

end

/-- The value of a slot, with objects looked into down to a depth. -/
def viewWithin (objects : Objects) : Nat → Slot → Json
  | _, .value v => v
  | 0, .object _ => .obj []
  | depth + 1, .object id =>
    .obj ((objects.fields id).map fun (name, slot) => (name, viewWithin objects depth slot))

/-- The value of a slot. No mapping stands inside itself, so no way down is longer than there are
objects. -/
def view (objects : Objects) (slot : Slot) : Json := objects.viewWithin objects.entries.size slot

/-- The slot at a path below an object; the empty path is the object itself. -/
def slotAt? (objects : Objects) (id : ObjectId) : Path → Option Slot
  | [] => some (.object id)
  | [step] => (objects.fields id).get? step
  | step :: next :: rest => match (objects.fields id).get? step with
    | some (.object inner) => slotAt? objects inner (next :: rest)
    | _ => none

/-- Put a slot at a path below an object, making objects on the way where there are none. -/
def putAt (objects : Objects) (id : ObjectId) (step : String) : Path → Slot → Objects
  | [], slot => objects.setFields id ((objects.fields id).put step slot)
  | next :: rest, slot => match (objects.fields id).get? step with
    | some (.object inner) => putAt objects inner next rest slot
    | _ =>
      let (inner, objects) := objects.add []
      putAt (objects.setFields id ((objects.fields id).put step (.object inner))) inner next rest slot

end Objects

end ChatWidget
