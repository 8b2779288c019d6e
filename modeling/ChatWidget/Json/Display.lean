import ChatWidget.Json.Value
import ChatWidget.Text.Literal
/-!
How a value is shown to a person: lists in brackets, mappings in braces, texts as quoted literals, and
the words `None`, `True` and `False`. A text shown on its own is shown as it is.
-/
namespace ChatWidget.Json

mutual

/-- The value as a literal. -/
def shownChars : Json → List Char
  | .null => "None".toList
  | .bool true => "True".toList
  | .bool false => "False".toList
  | .int value => (toString value).toList
  | .float value => value.text.toList
  | .str value => Text.literal value.toList
  | .arr items => '[' :: shownItems true items ++ [']']
  | .obj fields => '{' :: shownFields true fields ++ ['}']

def shownItems (first : Bool) : List Json → List Char
  | [] => []
  | item :: rest => (if first then [] else [',', ' ']) ++ shownChars item ++ shownItems false rest

def shownFields (first : Bool) : List (String × Json) → List Char
  | [] => []
  | (name, value) :: rest =>
    (if first then [] else [',', ' ']) ++ Text.literal name.toList ++ [':', ' '] ++
      shownChars value ++ shownFields false rest

end

def shown (value : Json) : String := String.ofList value.shownChars

/-- The value as text: a text is itself, all else its literal. -/
def asText : Json → String
  | .str value => value
  | value => value.shown

end ChatWidget.Json
