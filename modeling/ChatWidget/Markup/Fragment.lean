import ChatWidget.Markup.Token
import ChatWidget.Entries
/-!
A fragment of markup as a tree of nodes. The tokens are taken in order; at each point there is a path of
open elements from the fragment's root down, and what comes in belongs to the innermost one. A closing
tag closes the innermost open element of its name and all within it, or nothing if there is none.
-/
namespace ChatWidget.Markup

/-- A node: its tag, its attributes without the classes, its classes, the text directly in it, and its
children in order. -/
structure Node where
  tag : String
  attributes : Entries String
  classes : List String
  text : String
  children : List Node
deriving Inhabited

namespace Node

/-- A node as a tag describes it. The case of the tag does not matter, and of an attribute given twice the
first place and the last value count. -/
def ofTag (tag : String) (attributes : List (String × String)) : Node :=
  let entries := Entries.ofWrites attributes
  ⟨tag.lowered, entries.erase "class", ((entries.get? "class").getD "").blankSeparated, "", []⟩

def add (node child : Node) : Node := { node with children := node.children ++ [child] }

def addText (node : Node) (text : String) : Node := { node with text := node.text ++ text }

end Node

/-- A fragment being put together: its root, and the open elements below it, the innermost first. None
of them is among the children of another yet. -/
structure Building where
  root : Node
  path : List Node

namespace Building

/-- The tags whose elements are closed as soon as they are opened. -/
def voidTags : List String :=
  ["area", "base", "br", "col", "embed", "hr", "img", "input", "link", "meta", "source", "wbr"]

/-- Nothing yet. -/
def start : Building := ⟨Node.ofTag "#fragment" [], []⟩

/-- Change the innermost open element, or the root where none is open. -/
def onInnermost (change : Node → Node) : Building → Building
  | ⟨root, []⟩ => ⟨change root, []⟩
  | ⟨root, node :: path⟩ => ⟨root, change node :: path⟩

def closeInnermost (building : Building) : Building :=
  match building.path with
  | [] => building
  | node :: path => onInnermost (·.add node) ⟨building.root, path⟩

def closeMany : Nat → Building → Building
  | 0, building => building
  | n + 1, building => closeMany n building.closeInnermost

/-- Take a token in. Text of blanks alone is passed over. -/
def take (building : Building) : Token → Building
  | .opening name attributes closed =>
    let node := Node.ofTag name attributes
    if closed || voidTags.contains node.tag then building.onInnermost (·.add node)
    else { building with path := node :: building.path }
  | .closing name =>
    match building.path.findIdx? (·.tag == name.lowered) with
    | some n => building.closeMany (n + 1)
    | none => building
  | .text content =>
    if Text.allBlank content.toList then building else building.onInnermost (·.addText content)

def finish (building : Building) : Node := (building.closeMany building.path.length).root

end Building

def fragment (markup : String) : Except Fault Node := do
  pure ((← tokens markup).foldl Building.take Building.start).finish

/-- The first element of a fragment of markup. -/
def parse (markup : String) : Except Fault Node := do
  match (← fragment markup).children with
  | node :: _ => pure node
  | [] => throw .noElement

end ChatWidget.Markup
