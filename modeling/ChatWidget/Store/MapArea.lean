import ChatWidget.Op
/-!
A storage area held in memory: texts under keys, with a record of the calls made and a plan of which
calls fail. A call that is to fail is recorded and changes nothing.
-/
namespace ChatWidget

inductive AreaCall where
  | get (key : String)
  | set (key value : String)
  | remove (key : String)

/-- Which calls of a sort fail, counted from one. -/
inductive Outages where
  | never
  | always
  | at_ (numbers : List Nat)

/-- Does the call with the number fail? -/
def Outages.hits : Outages → Nat → Bool
  | never, _ => false
  | always, _ => true
  | at_ numbers, n => numbers.contains n

/-- An area in memory: its items, the plan of outages for each sort of call, what an outage looks like,
and the calls so far, of which some have been looked at. -/
structure MapArea where
  items : Entries Json := []
  getOutages : Outages := .never
  setOutages : Outages := .never
  removeOutages : Outages := .never
  outage : Fault := .refusedBySystem "quota exceeded"
  calls : List AreaCall := []
  seen : Nat := 0

namespace MapArea

def getCount (area : MapArea) : Nat := area.calls.countP fun | .get _ => true | _ => false

def setCount (area : MapArea) : Nat := area.calls.countP fun | .set _ _ => true | _ => false

def removeCount (area : MapArea) : Nat := area.calls.countP fun | .remove _ => true | _ => false

def newCalls (area : MapArea) : List AreaCall := area.calls.drop area.seen

def markSeen (area : MapArea) : MapArea := { area with seen := area.calls.length }

def record (area : MapArea) (call : AreaCall) : MapArea := { area with calls := area.calls ++ [call] }

def getItem (key : String) : Op MapArea (Option Json) := do
  Op.change (record · (.get key))
  let area ← Op.whole
  if area.getOutages.hits area.getCount then Op.fail area.outage
  else pure (area.items.get? key)

def setItem (key value : String) : Op MapArea Unit := do
  Op.change (record · (.set key value))
  let area ← Op.whole
  if area.setOutages.hits area.setCount then Op.fail area.outage
  else Op.change fun area => { area with items := area.items.put key (.str value) }

def removeItem (key : String) : Op MapArea Unit := do
  Op.change (record · (.remove key))
  let area ← Op.whole
  if area.removeOutages.hits area.removeCount then Op.fail area.outage
  else Op.change fun area => { area with items := area.items.erase key }

end MapArea

end ChatWidget
