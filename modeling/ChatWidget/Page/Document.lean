import ChatWidget.Page.Selector
/-!
A document: a root element that holds a head and a body.
-/
namespace ChatWidget

/-- The elements that a document starts with. -/
structure Document where
  root : ElementId
  head : ElementId
  body : ElementId

namespace Document

variable {ι : Type}

def create (elements : Elements ι) : Document × Elements ι :=
  let (root, elements) := elements.create (.ofTag "html" [])
  let (head, elements) := elements.create (.ofTag "head" [])
  let (body, elements) := elements.create (.ofTag "body" [])
  (⟨root, head, body⟩, elements.appendAll root [head, body])

/-- The first element of a document that a value selects, the root included. -/
def query (document : Document) (elements : Elements ι) (selector : Json) :
    Except Fault (Option ElementId) := do
  let selector ← Elements.selectorFor selector [document.root]
  if selector.meets (elements.get document.root) then pure (some document.root)
  else pure (elements.query? document.root selector)

end Document

end ChatWidget
