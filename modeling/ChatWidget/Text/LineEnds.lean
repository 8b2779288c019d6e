/-!
Line ends in files. Whatever marks the end of a line in a file is read as a line feed.
-/
namespace ChatWidget.Text

/-- A text with each line end written as a line feed alone. -/
def unifyLineEnds : List Char → List Char
  | '\r' :: '\n' :: rest => '\n' :: unifyLineEnds rest
  | '\r' :: rest => '\n' :: unifyLineEnds rest
  | c :: rest => c :: unifyLineEnds rest
  | [] => []

end ChatWidget.Text
