import ChatWidget.Page.Elements
/-!
Selectors: `#name` for the element with an identifier, `.name` for the elements of a class, and anything
else for the elements with that tag.
-/
namespace ChatWidget

inductive Selector where
  | identifier (name : String)
  | className (name : String)
  | tag (name : String)

namespace Selector

def ofText (text : String) : Selector :=
  match Text.strip text.toList with
  | '#' :: name => .identifier (String.ofList name)
  | '.' :: name => .className (String.ofList name)
  | name => .tag (String.ofList (Text.lower name))

def meets {ι : Type} (selector : Selector) (element : Element ι) : Bool :=
  match selector with
  | .identifier name => element.id? == some name
  | .className name => element.hasClass name
  | .tag name => element.tag == name

end Selector

namespace Elements

variable {ι : Type}

def queryAll (elements : Elements ι) (id : ElementId) (selector : Selector) : List ElementId :=
  (elements.descendants id).filter fun e => selector.meets (elements.get e)

def query? (elements : Elements ι) (id : ElementId) (selector : Selector) : Option ElementId :=
  (elements.descendants id).find? fun e => selector.meets (elements.get e)

/-- The selector that a value describes. Only texts describe one, and that matters only where there is
an element to try it on. -/
def selectorFor (selector : Json) (candidates : List ElementId) : Except Fault Selector :=
  match selector, candidates with
  | .str text, _ => .ok (.ofText text)
  | _, [] => .ok (.tag "")
  | _, _ :: _ => .error .missingOperation

end Elements

end ChatWidget
