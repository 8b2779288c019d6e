import ChatWidget.Markup.Fragment
import ChatWidget.Json.Display
/-!
The elements of a page, by number. Each knows its parent and its children in order, and both sides are
changed together: an element that is put under another first leaves the one it was under. Elements are
never forgotten, so a number stays good when its element is taken out of the page.
-/
namespace ChatWidget

abbrev ElementId := Nat

/-- An element, with listeners of the given type. An attribute may be without a value. -/
structure Element (ι : Type) where
  tag : String
  attributes : Entries (Option String) := []
  classes : List String := []
  text : String := ""
  value : Json := .str ""
  parent : Option ElementId := none
  children : List ElementId := []
  scrollTop : Int := 0
  clientHeight : Int := 0
  listeners : List (String × ι) := []

instance {ι : Type} : Inhabited (Element ι) := ⟨{ tag := "" }⟩

namespace Element

variable {ι : Type}

/-- An element as a tag describes it. The classes are the words of the attribute for them. -/
def ofTag (tag : String) (attributes : List (String × Option String)) : Element ι :=
  let entries := Entries.ofWrites attributes
  { tag := tag.lowered
    attributes := entries.erase "class"
    classes := (((entries.get? "class").bind id).getD "").blankSeparated }

def ofNode (node : Markup.Node) : Element ι :=
  { tag := node.tag
    attributes := node.attributes.map fun (name, value) => (name, some value)
    classes := node.classes
    text := node.text }

def id? (element : Element ι) : Option String := (element.attributes.get? "id").bind id

/-- The value of an attribute; the one for the classes is put together from them. -/
def attribute? (element : Element ι) (name : String) : Option String :=
  if name = "class" then some (" ".intercalate element.classes)
  else (element.attributes.get? name).bind id

def hasClass (element : Element ι) (name : String) : Bool := element.classes.contains name

/-- Take a class away if the element has it and add it if it has not; the answer says which, with true
for an added one. -/
def toggle (element : Element ι) (name : String) : Bool × Element ι :=
  if element.hasClass name then (false, { element with classes := element.classes.erase name })
  else (true, { element with classes := element.classes ++ [name] })

def lineHeight : Int := 20

/-- The height of what an element holds: a line for each child, and at least what is shown. -/
def scrollHeight (element : Element ι) : Int :=
  max (element.children.length * lineHeight) element.clientHeight

/-- The element moved so that its last line is shown. -/
def scrollToBottom (element : Element ι) : Element ι :=
  { element with scrollTop := element.scrollHeight - element.clientHeight }

def describe (element : Element ι) : String :=
  "<Element " ++ element.tag ++ " id=" ++ (Json.ofOption element.id?).shown ++ " class=" ++
    (" ".intercalate element.classes).literal ++ ">"

end Element

structure Elements (ι : Type) where
  table : Array (Element ι) := #[]

namespace Elements

variable {ι : Type}

def get (elements : Elements ι) (id : ElementId) : Element ι := elements.table.getD id default

def modify (elements : Elements ι) (id : ElementId) (change : Element ι → Element ι) : Elements ι :=
  ⟨elements.table.modify id change⟩

def create (elements : Elements ι) (element : Element ι) : ElementId × Elements ι :=
  (elements.table.size, ⟨elements.table.push element⟩)

def remove (elements : Elements ι) (id : ElementId) : Elements ι :=
  match (elements.get id).parent with
  | none => elements
  | some parent =>
    (elements.modify parent fun p => { p with children := p.children.erase id }).modify id
      fun e => { e with parent := none }

def append (elements : Elements ι) (parent child : ElementId) : Elements ι :=
  ((elements.remove child).modify child fun e => { e with parent := some parent }).modify parent
    fun p => { p with children := p.children ++ [child] }

def appendAll (elements : Elements ι) (parent : ElementId) (children : List ElementId) :
    Elements ι :=
  children.foldl (fun elements child => elements.append parent child) elements

def clear (elements : Elements ι) (id : ElementId) : Elements ι :=
  (elements.get id).children.foldl remove elements

def setTextContent (elements : Elements ι) (id : ElementId) (text : String) : Elements ι :=
  (elements.clear id).modify id fun e => { e with text := text }

mutual

/-- Make the element that a node of markup describes, with all below it; it is under no other. -/
def graft (elements : Elements ι) : Markup.Node → ElementId × Elements ι
  | ⟨tag, attributes, classes, text, children⟩ =>
    let (id, elements) := elements.create (.ofNode ⟨tag, attributes, classes, text, []⟩)
    (id, graftAll elements id children)

/-- Make the elements that nodes describe, last under a parent. -/
def graftAll (elements : Elements ι) (parent : ElementId) : List Markup.Node → Elements ι
  | [] => elements
  | node :: rest =>
    let (id, elements) := graft elements node
    graftAll (elements.append parent id) parent rest

end

/-- The elements below one, each before those below it, looked for down to a depth. -/
def descendantsWithin (elements : Elements ι) : Nat → ElementId → List ElementId
  | 0, _ => []
  | depth + 1, id =>
    (elements.get id).children.flatMap fun child =>
      child :: elements.descendantsWithin depth child

/-- The elements below one, in the order of the page. No way down is longer than there are elements. -/
def descendants (elements : Elements ι) (id : ElementId) : List ElementId :=
  elements.descendantsWithin elements.table.size id

/-- The text in an element and in all below it: its own text, then its children's in order. -/
def textContent (elements : Elements ι) (id : ElementId) : String :=
  (id :: elements.descendants id).foldl (fun text e => text ++ (elements.get e).text) ""

end Elements

end ChatWidget
