import ChatWidget.Entries
import ChatWidget.Number.Shortest
/-!
Data values: null, truth values, whole numbers of any size, floating-point numbers, texts, lists, and
mappings whose entries are ordered. A whole number and the floating-point number of the same worth are
different values.
-/
namespace ChatWidget

inductive Json where
  | null
  | bool (value : Bool)
  | int (value : Int)
  | float (value : Binary64)
  | str (value : String)
  | arr (items : List Json)
  | obj (fields : List (String × Json))
deriving Inhabited

namespace Json

/-- The most digits that a whole number may have where it is written or read. -/
def digitLimit : Nat := 4300

/-- Does the value count as present where a choice falls back on another one? Null, false, zero, and
whatever is empty do not. -/
def isTruthy : Json → Bool
  | .null => false
  | .bool value => value
  | .int value => value != 0
  | .float value => !value.isZero
  | .str value => value != ""
  | .arr items => !items.isEmpty
  | .obj fields => !fields.isEmpty

/-- The first of two values, unless it does not count as present. -/
def orElse (first second : Json) : Json := if first.isTruthy then first else second

def field? : Json → String → Option Json
  | .obj fields, name => Entries.get? fields name
  | _, _ => none

/-- The value under a name; null where there is none. -/
def field (value : Json) (name : String) : Json := (value.field? name).getD .null

def str? : Json → Option String
  | .str value => some value
  | _ => none

def obj? : Json → Option (Entries Json)
  | .obj fields => some fields
  | _ => none

def arr? : Json → Option (List Json)
  | .arr items => some items
  | _ => none

mutual

/-- How deep lists and mappings stand inside each other. -/
def depth : Json → Nat
  | .arr items => depthOfItems items + 1
  | .obj fields => depthOfFields fields + 1
  | _ => 0

def depthOfItems : List Json → Nat
  | [] => 0
  | item :: rest => max (depth item) (depthOfItems rest)

def depthOfFields : List (String × Json) → Nat
  | [] => 0
  | (_, value) :: rest => max (depth value) (depthOfFields rest)

end

def ofOption : Option String → Json
  | some value => .str value
  | none => .null

end Json

end ChatWidget
