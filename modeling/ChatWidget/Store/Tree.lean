import ChatWidget.Store.Path
/-!
Reading and writing at a path of a tree. Reading never changes the tree and gives up where a step is
missing or the way is not a mapping; writing makes mappings on the way where there are none.
-/
namespace ChatWidget.Tree

def get? (value : Json) : Path → Option Json
  | [] => some value
  | step :: rest => match value.field? step with
    | some next => get? next rest
    | none => none

/-- The entries of a tree after a value was put at a path below it. -/
def put (fields : Entries Json) : String → Path → Json → Entries Json
  | step, [], value => fields.put step value
  | step, next :: rest, value =>
    let inner := ((fields.get? step).bind Json.obj?).getD []
    fields.put step (.obj (put inner next rest value))

/-- Put a value at a path. At the empty path it takes the place of the whole tree, and has to be a
mapping. -/
def set (fields : Entries Json) (path : Path) (value : Json) : Except Fault (Entries Json) :=
  match path, value with
  | [], .obj whole => .ok whole
  | [], _ => .error .rootNotMapping
  | step :: rest, value => .ok (put fields step rest value)

end ChatWidget.Tree
