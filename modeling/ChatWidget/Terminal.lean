import ChatWidget.Client.Activate
/-!
A conversation on a terminal: the user is prompted for a line, the line goes the way of everything that
is typed into the widget's input, and the whole chat is written out when the server has answered. One
line has a meaning of its own and starts the conversation over.
-/
namespace ChatWidget.Terminal

def prompt : String := "> "

def resetLine : String := "/reset"

def refusal : String := "No identity configured"

def written (lines : List String) : String := String.join (lines.map (· ++ "\n"))

/-- Wait for the server, and write the chat out. -/
def render : ClientOp String := do
  discard (Client.wait true)
  pure (written (← Client.current).widget.transcript)

/-- Take a line of the user, and write out what comes of it. -/
def takeLine (line : String) : ClientOp String := do
  if line.trimBlanks == resetLine then
    Client.reset .null
    pure ""
  else
    Client.type (.str line) (.str "Enter")
    render

/-- A conversation of so many lines, written out with a prompt before each line and one more at the
end. -/
def converse (lines : List String) : ClientOp String := do
  let opening ← render
  let answers ← lines.mapM fun line => (prompt ++ ·) <$> takeLine line
  pure (opening ++ String.join answers ++ prompt)

/-- The client of a terminal, made for an identity and a page that may be given as arguments. -/
def activate (settings : Settings) (arguments : List String) : Op Surroundings (Option Client) :=
  let (document, elements) := Document.create {}
  Client.activate settings
    { identity := Json.ofOption arguments[0]?, pageUrl := Json.ofOption arguments[1]? }
    document elements

/-- A whole run: what is written out, and what is said at the end where there is nobody to talk to. -/
def run (settings : Settings) (arguments lines : List String) :
    Op Surroundings (String × Option String) := do
  match ← activate settings arguments with
  | none => pure ("", some refusal)
  | some client => do
    let (output, _) ← client.perform (converse lines)
    pure (output, none)

/-- The lines of a text, each without its line feed. A text that ends in a line feed ends there. -/
def linesOf (text : String) : List String :=
  let lines := (Text.splitAt '\n' text.toList).map String.ofList
  if lines.getLast? = some "" then lines.dropLast else lines

end ChatWidget.Terminal
