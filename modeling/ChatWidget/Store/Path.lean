import ChatWidget.Fault
import ChatWidget.Text.Blank
/-!
Paths into a tree of named values. A path is given as a text whose steps are separated by dots or as a
list of steps; anything empty is the empty path.
-/
namespace ChatWidget

/-- The steps from the root of a tree to a place in it. -/
abbrev Path := List String

namespace Path

/-- The steps of a dotted text; the empty text has none. -/
def ofDotted (text : String) : Path :=
  if text.isEmpty then [] else (Text.splitAt '.' text.toList).map String.ofList

/-- The path that a value stands for: a dotted text, or a list whose items are shown as text. Values
that do not count as present are the empty path, and no others are paths. -/
def ofJson : Json → Except Fault Path
  | .arr steps => steps.mapM Json.toText
  | .str text => .ok (ofDotted text)
  | value => if value.isTruthy then .error .missingOperation else .ok []

end Path

end ChatWidget
