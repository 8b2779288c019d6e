/-!
Text made safe for markup: the characters with a meaning of their own are written as references, and a
line feed becomes a line break.
-/
namespace ChatWidget.Markup

def escapeChar (c : Char) : List Char :=
  match c with
  | '&' => ['&', 'a', 'm', 'p', ';']
  | '<' => ['&', 'l', 't', ';']
  | '>' => ['&', 'g', 't', ';']
  | '\n' => ['<', 'b', 'r', '/', '>']
  | c => [c]

/-- A text as markup. -/
def escape (cs : List Char) : List Char := cs.flatMap escapeChar

end ChatWidget.Markup

def String.escaped (s : String) : String := String.ofList (ChatWidget.Markup.escape s.toList)
