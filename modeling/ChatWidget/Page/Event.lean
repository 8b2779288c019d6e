import ChatWidget.Op
import ChatWidget.Page.Elements
/-!
Events and their dispatch. An event is given to the listeners for its type that the element has when the
dispatch begins, each once and in the order they were added. Its target is the element of its first
dispatch. A listener that fails is logged and keeps no other from its turn.
-/
namespace ChatWidget

structure Event where
  type : String
  key : Json := .null
  target : Option ElementId := none

namespace Elements

variable {ι : Type}

def listen (elements : Elements ι) (id : ElementId) (type : String) (listener : ι) : Elements ι :=
  elements.modify id fun e => { e with listeners := e.listeners ++ [(type, listener)] }

/-- The listeners of an element for a type of events, in the order they were added. -/
def listenersFor (elements : Elements ι) (id : ElementId) (type : String) : List ι :=
  ((elements.get id).listeners.filter (·.1 == type)).map (·.2)

end Elements

/-- What listeners do: given how to dispatch further events, a listener and an event. -/
abbrev Reaction (σ ι : Type) := (ElementId → Event → Op σ Event) → ι → Event → Op σ Unit

def callListeners {σ ι : Type} (call : ι → Event → Op σ Unit) (event : Event) :
    List ι → Op σ Unit
  | [] => pure ()
  | listener :: rest => do
    match ← Op.attempt (call listener event) with
    | .ok () => pure ()
    | .error _ => Op.note (.listenerFailed event.type)
    callListeners call event rest

/-- Dispatch an event on an element, with dispatches inside it nested down to a depth; the answer is the
event with its target. -/
def dispatch {σ ι : Type} (elements : σ → Elements ι) (react : Reaction σ ι) :
    Nat → ElementId → Event → Op σ Event
  | 0, _, event => pure event
  | depth + 1, id, event => do
    let event := { event with target := some (event.target.getD id) }
    let listeners ← Op.read fun s => (elements s).listenersFor id event.type
    callListeners (react (dispatch elements react depth)) event listeners
    pure event

end ChatWidget
