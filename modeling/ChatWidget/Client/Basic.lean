import ChatWidget.Widget.Basic
import ChatWidget.Store.History
import ChatWidget.Settings.Basic
import ChatWidget.Net.Transport
/-!
A client: the widget with everything it works with. What lies outside, where the store is kept and the
way to the server, it may share with other clients, so it is no part of it. An operation of a client may
change both.
-/
namespace ChatWidget

/-- What is to happen when a request of a client has ended. -/
inductive Callback where
  | runCommands
  | tellHost (tag : Json)

/-- A client. The notices say how requests of the host ended, by the tags they were made with. -/
structure Client where
  site : Site
  settings : Settings
  widget : Widget
  store : Store
  history : History := {}
  transport : Transport Callback
  notices : List (Json × Outcome) := []

/-- What lies outside a client: a medium for its store, and the way to the server. -/
structure Surroundings (μ : Type := Medium) where
  medium : μ
  wire : Wire := {}

/-- An operation of a client on a medium of the given type. -/
abbrev ClientOn (μ α : Type) := Op (Client × Surroundings μ) α

abbrev ClientOp (α : Type) := ClientOn Medium α

namespace Client

variable {μ : Type} [StorageArea μ]

def current : ClientOn μ Client := Op.read Prod.fst

def changeWidget (change : Widget → Widget) : ClientOn μ Unit :=
  Op.change fun (client, around) => ({ client with widget := change client.widget }, around)

def tryWidget {α : Type} (change : Widget → Except Fault (α × Widget)) : ClientOn μ α := do
  let (result, widget) ← Op.lift (change (← current).widget)
  changeWidget fun _ => widget
  pure result

def onStore {α : Type} (op : Op (Store × μ) α) : ClientOn μ α :=
  Op.within (fun (client, around) => (client.store, around.medium))
    (fun (store, medium) (client, around) =>
      ({ client with store := store }, { around with medium := medium })) op

def onTransport {α : Type} (op : Op (Transport Callback × Wire) α) : ClientOn μ α :=
  Op.within (fun (client, around) => (client.transport, around.wire))
    (fun (transport, wire) (client, around) =>
      ({ client with transport := transport }, { around with wire := wire })) op

/-- Perform an operation of a client where the client is at hand; the answer has the client as it is
afterwards. -/
def perform {α : Type} (client : Client) (op : ClientOn μ α) : Op (Surroundings μ) (α × Client) :=
  Op.ofRun fun s =>
    let (result, after) := op.start ⟨(client, s.state), s.log⟩
    (result.map fun value => (value, after.state.1), ⟨after.state.2, after.log⟩)

def entries : ClientOn μ (List Json) := do
  let client ← current
  Op.lift (client.history.all client.store)

def record (entry : Json) : ClientOn μ Unit := do
  onStore ((← current).history.append entry)

end Client

end ChatWidget
