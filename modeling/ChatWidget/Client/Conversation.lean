import ChatWidget.Client.Commands
import ChatWidget.Text.Percent
/-!
The conversation with the server. What the user says is shown, recorded and sent, and what the server
answers is run as a batch of commands. Outcomes come in only when the host processes them.
-/
namespace ChatWidget.Client

variable {μ : Type} [StorageArea μ]

def endpoint (folder : String) : Json → Except Fault String
  | .str identity => .ok (folder ++ "/" ++ identity.quoted)
  | _ => .error .wrongType

/-- Ask the server for commands; the data go with the request. -/
def converse (method folder : String) (data : Json) : ClientOn μ Unit := do
  let endpoint ← Op.lift (endpoint folder (← current).site.identity)
  let options := Json.obj [("accept", .str Response.jsonType)]
  onTransport (Transport.issue { method, endpoint, data := .data data, options }
    ⟨endpoint, some .runCommands, some .runCommands⟩)

/-- Ask the server for what to begin with. -/
def boot : ClientOn μ Unit := converse "GET" "init" .null

/-- What remains of a text that was handed in. Whatever does not count as present is the empty text. -/
def spoken : Json → Except Fault String
  | .str text => .ok text.trimBlanks
  | value => if value.isTruthy then .error .missingOperation else .ok ""

/-- Say something to the server; the answer tells whether it was said. Blanks alone are not said, and
nothing is before the widget is mounted. -/
def submit (text : Json) : ClientOn μ Bool := do
  if !(← current).widget.ready then
    Op.note .messageDropped
    pure false
  else
    let message ← Op.lift (spoken text)
    if message.isEmpty then pure false
    else
      let fragment := Bubble.user message
      tryWidget fun widget => (widget.addMessage fragment).map ((), ·)
      changeWidget fun widget => widget.addPlaceholder.scrollToEnd
      record (.str fragment)
      converse "POST" "chat" (.obj [("input", .str message)])
      pure true

/-- Take an outcome in. The commands in a response are run; of a failure only the log tells. -/
def receive : Callback → Outcome → ClientOn μ Unit
  | .runCommands, .success response => discard (execute (response.field "commands"))
  | .runCommands, .failure status message => Op.note (.chatRequestFailed status message)
  | .tellHost tag, outcome =>
    Op.change fun (client, around) =>
      ({ client with notices := client.notices ++ [(tag, outcome)] }, around)

/-- Process what has come in, and count it. No callback of a client sends a request, so nothing is added
meanwhile. -/
def process : ClientOn μ Nat := do
  let limit := (← current).transport.queue.length
  Transport.processWithin (onTransport Transport.take) (fun _ => receive) limit

/-- Process until nothing is pending; the answer tells whether that came to pass. -/
def wait (patient : Bool) : ClientOn μ Bool :=
  Transport.waitWith (fun (client, _) => client.transport.pending) process patient

/-- Send a request for the host. -/
def request (call : Call) (tag : Json) : ClientOn μ Unit :=
  onTransport (Transport.issue call ⟨call.endpoint, some (.tellHost tag), some (.tellHost tag)⟩)

/-- What was typed is sent when it is entered, and the input is emptied. -/
def enter (event : Event) : ClientOn μ Unit := do
  match event.key with
  | .str "Enter" => do
    let widget := (← current).widget
    match (widget.elements.get widget.window.input).value with
    | .str typed =>
      if Text.allBlank typed.toList then pure ()
      else
        type (.str "")
        discard (submit (.str typed))
    | _ => Op.fail .missingOperation
  | _ => pure ()
where
  type (value : Json) : ClientOn μ Unit :=
    changeWidget fun widget => { widget with
      elements := widget.elements.modify widget.window.input fun e => { e with value := value } }

def react : Reaction (Client × Surroundings μ) Listener := fun _ listener event =>
  match listener with
  | .scrollToEnd chat => changeWidget fun widget =>
    { widget with elements := widget.elements.modify chat (·.scrollToBottom) }
  | .toggleWindow window => changeWidget fun widget =>
    { widget with elements := widget.elements.modify window fun e =>
        (e.toggle Window.shownClass).2 }
  | .sendOnEnter => enter event

/-- Let an event happen to an element. No listener of the widget lets another one happen. -/
def happen (id : ElementId) (event : Event) : ClientOn μ Unit :=
  discard (dispatch (fun (client, _) => client.widget.elements) react 1 id event)

def type (value key : Json) : ClientOn μ Unit := do
  enter.type value
  happen (← current).widget.window.input { type := "keyup", key }

def click : ClientOn μ Unit := do
  happen (← current).widget.window.handle { type := "click" }

end ChatWidget.Client
