import ChatWidget.Text.Blank
import ChatWidget.Text.LowerCase
/-!
Reading a whole number that a person may have written: blanks around it do not count, a sign may stand
before it, and single underscores may stand between its digits.
-/
namespace ChatWidget

/-- The digits of a numeral without the underscores between them. -/
def numeralDigits? (cs : List Char) : Option (List Char) :=
  let parts := Text.splitAt '_' cs
  if parts.all fun part => !part.isEmpty && part.all Text.isDigit then some parts.flatten else none

def readWholeNumber? (cs : List Char) : Option Int :=
  let (negative, digits) := match Text.strip cs with
    | '-' :: rest => (true, rest)
    | '+' :: rest => (false, rest)
    | cs => (false, cs)
  (numeralDigits? digits).map fun digits =>
    let size : Int := digits.foldl (fun n d => 10 * n + Text.digitValue d) 0
    if negative then -size else size

end ChatWidget
