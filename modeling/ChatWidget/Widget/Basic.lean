import ChatWidget.Page.Document
import ChatWidget.Page.Event
import ChatWidget.Widget.Fragments
/-!
The widget on its page: a window with a handle, a title, a chat and an input, which exists from the start
and stands in the document once it is mounted. The chat holds one element for each message and one for
each answer that is awaited.
-/
namespace ChatWidget

/-- What the widget's listeners do. -/
inductive Listener where
  | scrollToEnd (chat : ElementId)
  | toggleWindow (window : ElementId)
  | sendOnEnter

/-- The elements of a window that the widget works with. -/
structure Window where
  frame : ElementId
  handle : ElementId
  title : ElementId
  chat : ElementId
  input : ElementId

namespace Window

def shownClass : String := "pws-cb-show"

def create {ι : Type} (elements : Elements ι) : Window × Elements ι :=
  let (frame, elements) := elements.create
    { tag := "div", attributes := [("id", some "pws-cb-win")], classes := ["pws-cb-win"] }
  let (handle, elements) := elements.create { tag := "div", classes := ["pws-cb-handle"] }
  let (title, elements) := elements.create
    { tag := "div", classes := ["pws-cb-title"], text := "Title" }
  let (chat, elements) := elements.create { tag := "div", classes := ["pws-cb-chat"] }
  let (footer, elements) := elements.create { tag := "div", classes := ["pws-cb-footer"] }
  let (input, elements) := elements.create
    { tag := "textarea", attributes := [("placeholder", some "Enter your message...")] }
  let elements := (elements.append footer input).appendAll frame [handle, title, chat, footer]
  (⟨frame, handle, title, chat, input⟩, elements)

end Window

/-- The widget: the elements there are, the document, the window, and whether it has been mounted. -/
structure Widget where
  elements : Elements Listener
  document : Document
  window : Window
  ready : Bool := false

namespace Widget

def create (document : Document) (elements : Elements Listener) : Widget :=
  let (window, elements) := Window.create elements
  { elements, document, window }

def addNode (widget : Widget) (parent : ElementId) (node : Markup.Node) : ElementId × Widget :=
  let (id, elements) := widget.elements.graft node
  (id, { widget with elements := elements.append parent id })

def addMarkup (widget : Widget) (parent : ElementId) (markup : String) :
    Except Fault (ElementId × Widget) := do
  pure (widget.addNode parent (← Markup.parse markup))

def messages (widget : Widget) : List ElementId := (widget.elements.get widget.window.chat).children

def placeholders (widget : Widget) : List ElementId :=
  widget.elements.queryAll widget.window.chat (.className Bubble.pendingClass)

def addMessage (widget : Widget) (markup : String) : Except Fault Widget := do
  pure (← widget.addMarkup widget.window.chat markup).2

def addPlaceholder (widget : Widget) : Widget :=
  (widget.addNode widget.window.chat Bubble.placeholder).2

def removePlaceholders (widget : Widget) : Widget :=
  { widget with elements := widget.placeholders.foldl Elements.remove widget.elements }

def clearChat (widget : Widget) : Widget :=
  { widget with elements := widget.elements.clear widget.window.chat }

def scrollToEnd (widget : Widget) : Widget :=
  { widget with elements := widget.elements.modify widget.window.chat (·.scrollToBottom) }

/-- Put a link to a stylesheet into the head of the document. -/
def addStylesheet (widget : Widget) (id address : String) : Except Fault (ElementId × Widget) :=
  widget.addMarkup widget.document.head (Stylesheet.link id address)

/-- Put the window last under an element and listen to it, and to the stylesheet behind a link. -/
def mount (widget : Widget) (attachment link : ElementId) (title : Option String) : Widget :=
  let window := widget.window
  let elements := match title with
    | some title => widget.elements.setTextContent window.title title
    | none => widget.elements
  let elements := elements.append attachment window.frame
  let elements := elements.listen link "load" (.scrollToEnd window.chat)
  let elements := elements.listen window.handle "click" (.toggleWindow window.frame)
  let elements := elements.listen window.input "keyup" .sendOnEnter
  { widget with elements, ready := true }

/-- What a message reads as: who speaks, and what. -/
def messageLine (widget : Widget) (message : ElementId) : String :=
  let element := widget.elements.get message
  let text := widget.elements.textContent message
  if element.hasClass Bubble.userClass then "You: " ++ text
  else if element.hasClass Bubble.pendingClass then "Bot: ..."
  else "Bot: " ++ text

def transcript (widget : Widget) : List String := widget.messages.map widget.messageLine

end Widget

end ChatWidget
