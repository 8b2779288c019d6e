import ChatWidget.Json.Value
import ChatWidget.Text.Literal
/-!
The written form of a value: one line, a comma and a space between neighbours, a colon and a space after
a name. In texts only the quote, the backslash and the characters below the space are escaped, so no
written form holds a line break.
-/
namespace ChatWidget.Json

mutual

/-- Has the value a written form? Only a whole number with too many digits has none. -/
def isWritable : Json → Bool
  | .int value => Binary64.digitCount value.natAbs ≤ digitLimit
  | .arr items => areWritable items
  | .obj fields => fieldsAreWritable fields
  | _ => true

def areWritable : List Json → Bool
  | [] => true
  | item :: rest => isWritable item && areWritable rest

def fieldsAreWritable : List (String × Json) → Bool
  | [] => true
  | (_, value) :: rest => isWritable value && fieldsAreWritable rest

end

/-- One character of a text in its written form. -/
def writtenChar (c : Char) : List Char :=
  if c = '"' then ['\\', '"']
  else if c = '\\' then ['\\', '\\']
  else if c = '\n' then ['\\', 'n']
  else if c = '\r' then ['\\', 'r']
  else if c = '\t' then ['\\', 't']
  else if c.toNat = 0x0C then ['\\', 'f']
  else if c.toNat = 0x08 then ['\\', 'b']
  else if c.toNat < 0x20 then '\\' :: 'u' :: Text.hexDigits 4 c.toNat
  else [c]

def writtenText (s : String) : List Char := '"' :: s.toList.flatMap writtenChar ++ ['"']

mutual

def writtenChars : Json → List Char
  | .null => "null".toList
  | .bool true => "true".toList
  | .bool false => "false".toList
  | .int value => (toString value).toList
  | .float value => value.textWith "Infinity" "NaN"
  | .str value => writtenText value
  | .arr items => '[' :: writtenItems true items ++ [']']
  | .obj fields => '{' :: writtenFields true fields ++ ['}']

def writtenItems (first : Bool) : List Json → List Char
  | [] => []
  | item :: rest => (if first then [] else [',', ' ']) ++ writtenChars item ++ writtenItems false rest

def writtenFields (first : Bool) : List (String × Json) → List Char
  | [] => []
  | (name, value) :: rest =>
    (if first then [] else [',', ' ']) ++ writtenText name ++ [':', ' '] ++ writtenChars value ++
      writtenFields false rest

end

def written (value : Json) : String := String.ofList value.writtenChars

end ChatWidget.Json
