import ChatWidget.Client.Basic
import ChatWidget.Command.Batch
/-!
What a server can make a client do: mount the widget, show the history again, forget everything, and say
something. The widget is mounted once; whatever is shown is also recorded, so that the history can bring
it back.
-/
namespace ChatWidget.Client

variable {μ : Type} [StorageArea μ]

/-- Mount the widget as the data say, or else the settings: with a style, at the element that a selector
finds, under a title. -/
def init (data : Json) : ClientOn μ Unit := do
  let client ← current
  let settings := client.settings
  if client.widget.ready then Op.note .widgetAlreadyInitialized
  else
    let style := (data.field "style").orElse (.str settings.style)
    let selector := (data.field "selector").orElse (.str settings.selector)
    let title := (data.field "title").orElse (Json.ofOption settings.title)
    match ← Op.lift (client.widget.document.query client.widget.elements selector) with
    | none => Op.note (.attachmentMissing selector)
    | some attachment => do
      let root := client.site.root
      let chosen ← Op.lift style.toText
      let _ ← tryWidget (·.addStylesheet Stylesheet.chosenId (Stylesheet.chosenAddress root chosen))
      let link ← tryWidget (·.addStylesheet Stylesheet.baseId (Stylesheet.baseAddress root))
      let caption ← Op.lift (if title.isTruthy then title.toText.map some else .ok none)
      changeWidget (·.mount attachment link caption)
      Op.note (.widgetInitialized client.site.identity style)

/-- Show an entry of the history; one without any element is skipped and logged. -/
def replayEntry (index : Nat) (entry : Json) : ClientOn μ Unit := do
  match entry with
  | .str markup =>
    match (← current).widget.addMessage markup with
    | .ok widget => changeWidget fun _ => widget
    | .error .noElement =>
      Op.note (.historyEntrySkipped index Fault.noElement.code entry)
    | .error fault => Op.fail fault
  | _ => Op.fail .wrongType

def replay : Nat → List Json → ClientOn μ Unit
  | _, [] => pure ()
  | index, entry :: rest => do
    replayEntry index entry
    replay (index + 1) rest

/-- Show the history in place of what the chat shows. -/
def restore (_data : Json) : ClientOn μ Unit := do
  changeWidget Widget.clearChat
  replay 0 (← entries)
  changeWidget Widget.scrollToEnd

/-- Forget the history and empty the chat. -/
def reset (_data : Json) : ClientOn μ Unit := do
  onStore (← current).history.clear
  changeWidget Widget.clearChat

/-- What the bot says: data as text, and nothing for null. -/
def said : Json → Except Fault String
  | .null => .ok ""
  | data => data.toText

/-- Say something in place of the awaited answers, and record it. -/
def text (data : Json) : ClientOn μ Unit := do
  let fragment := Bubble.bot (← Op.lift (said data))
  changeWidget Widget.removePlaceholders
  tryWidget fun widget => (widget.addMessage fragment).map ((), ·)
  changeWidget Widget.scrollToEnd
  record (.str fragment)

def handlers : Entries (Handler (Client × Surroundings μ)) :=
  [("init", fun _ => init), ("restore", fun _ => restore), ("reset", fun _ => reset),
   ("text", fun _ => text)]

/-- Run a batch of commands. -/
def execute (commands : Json) : ClientOn μ Report := Batch.execute handlers commands

end ChatWidget.Client
