import ChatWidget.Json.Value
import ChatWidget.Text.LowerCase
/-!
Reading a value from its written form. The reader works on what remains of the text and stops at the
first character that cannot go on; the error names what was expected there and, counted from the amount
that remained, the line and column. Also read are `NaN` and the infinities, and a number too large for
floating point is infinite. Under a name that comes twice the later value stands at the earlier place.
-/
namespace ChatWidget.Json

inductive ReadCause where
  | expectingValue
  | expectingName
  | expectingColon
  | expectingComma
  | extraData
  | unterminatedText
  | controlCharacter
  | badEscape
  | badUnicodeEscape
  | byteOrderMark
  | tooManyDigits (count : Nat)

/-- Why reading stopped and how many characters remained there. -/
structure Stop where
  cause : ReadCause
  remaining : Nat

namespace ReadCause

def wording : ReadCause → String
  | expectingValue => "Expecting value"
  | expectingName => "Expecting property name enclosed in double quotes"
  | expectingColon => "Expecting ':' delimiter"
  | expectingComma => "Expecting ',' delimiter"
  | extraData => "Extra data"
  | unterminatedText => "Unterminated string starting at"
  | controlCharacter => "Invalid control character at"
  | badEscape => "Invalid \\escape"
  | badUnicodeEscape => "Invalid \\uXXXX escape"
  | byteOrderMark => "Unexpected UTF-8 BOM (decode using utf-8-sig)"
  | tooManyDigits count =>
    "Exceeds the limit (4300 digits) for integer string conversion: value has " ++ toString count ++
      " digits; use sys.set_int_max_str_digits() to increase the limit"

end ReadCause

/-- The message of a stop: the wording, and where in the text it was. The limit on digits has no
place. -/
def Stop.message (stop : Stop) (whole : List Char) : String :=
  match stop.cause with
  | .tooManyDigits count => (ReadCause.tooManyDigits count).wording
  | cause =>
    let position := whole.length - stop.remaining
    let before := whole.take position
    let line := before.count '\n' + 1
    let column := (before.reverse.takeWhile (· != '\n')).length + 1
    cause.wording ++ ": line " ++ toString line ++ " column " ++ toString column ++
      " (char " ++ toString position ++ ")"

def isGap (c : Char) : Bool := c = ' ' || c = '\t' || c = '\n' || c = '\r'

def skipGap (cs : List Char) : List Char := cs.dropWhile isGap

def digitsValue (digits : List Char) : Nat :=
  digits.foldl (fun value d => 10 * value + Text.digitValue d) 0

/-- The value of four hexadecimal digits at the front, and what remains after them. -/
def fourHexDigits? : List Char → Option (Nat × List Char)
  | a :: b :: c :: d :: rest => do
    let a ← Text.hexValue? a
    let b ← Text.hexValue? b
    let c ← Text.hexValue? c
    let d ← Text.hexValue? d
    pure (((a * 16 + b) * 16 + c) * 16 + d, rest)
  | _ => none

def joinSurrogates (high low : Nat) : Char :=
  Char.ofNat (0x10000 + (high - 0xD800) * 0x400 + (low - 0xDC00))

/-- The character that a number stands for. A half of a pair that stands alone is no character; the
replacement character stands in for it. -/
def charOfUnit (unit : Nat) : Char :=
  if 0xD800 ≤ unit && unit ≤ 0xDFFF then Char.ofNat 0xFFFD else Char.ofNat unit

/-- The second half of a surrogate pair, if the text goes on with one and with something after it. -/
def readLowSurrogate (after : List Char) : Except Stop (Option (Nat × List Char)) :=
  match after with
  | '\\' :: 'u' :: rest =>
    if rest.length ≤ 4 then .ok none
    else match fourHexDigits? rest with
      | none => .error ⟨.badUnicodeEscape, rest.length + 1⟩
      | some (low, rest) =>
        if 0xDC00 ≤ low && low ≤ 0xDFFF then .ok (some (low, rest)) else .ok none
  | _ => .ok none

/-- A character given by its number, read after `\u`. Something must come after the four digits. -/
def readUnicodeEscape (rest : List Char) : Except Stop (Char × List Char) :=
  if rest.length ≤ 4 then .error ⟨.badUnicodeEscape, rest.length + 1⟩
  else match fourHexDigits? rest with
    | none => .error ⟨.badUnicodeEscape, rest.length + 1⟩
    | some (unit, after) =>
      if 0xD800 ≤ unit && unit ≤ 0xDBFF then do
        match ← readLowSurrogate after with
        | some (low, after) => pure (joinSurrogates unit low, after)
        | none => pure (charOfUnit unit, after)
      else .ok (charOfUnit unit, after)

def escapedChar? (c : Char) : Option Char :=
  match c with
  | '"' => some '"'
  | '\\' => some '\\'
  | '/' => some '/'
  | 'b' => some (Char.ofNat 8)
  | 'f' => some (Char.ofNat 12)
  | 'n' => some '\n'
  | 'r' => some '\r'
  | 't' => some '\t'
  | _ => none

/-- A text, read after its opening quote; `opening` is what remained at the quote, and `read` holds, in
reverse, what has been read. -/
def readText (opening : Nat) : Nat → List Char → List Char → Except Stop (String × List Char)
  | 0, _, _ => .error ⟨.unterminatedText, opening⟩
  | _ + 1, _, [] => .error ⟨.unterminatedText, opening⟩
  | fuel + 1, read, c :: rest =>
    if c = '"' then .ok (String.ofList read.reverse, rest)
    else if c = '\\' then
      match rest with
      | [] => .error ⟨.unterminatedText, opening⟩
      | 'u' :: rest => do
        let (d, rest) ← readUnicodeEscape rest
        readText opening fuel (d :: read) rest
      | letter :: rest =>
        match escapedChar? letter with
        | some d => readText opening fuel (d :: read) rest
        | none => .error ⟨.badEscape, rest.length + 2⟩
    else if c.toNat < 0x20 then .error ⟨.controlCharacter, rest.length + 1⟩
    else readText opening fuel (c :: read) rest

def splitFraction : List Char → List Char × List Char
  | '.' :: d :: rest =>
    if Text.isDigit d then (d :: rest.takeWhile Text.isDigit, rest.dropWhile Text.isDigit)
    else ([], '.' :: d :: rest)
  | cs => ([], cs)

def splitExponent (cs : List Char) : Option Int × List Char :=
  match cs with
  | mark :: rest =>
    if mark = 'e' || mark = 'E' then
      let (negative, digits) := match rest with
        | '-' :: rest => (true, rest)
        | '+' :: rest => (false, rest)
        | rest => (false, rest)
      if (digits.takeWhile Text.isDigit).isEmpty then (none, cs)
      else
        let size : Int := digitsValue (digits.takeWhile Text.isDigit)
        (some (if negative then -size else size), digits.dropWhile Text.isDigit)
    else (none, cs)
  | [] => (none, cs)

/-- The digits before the point: a zero alone, or digits that do not begin with zero. -/
def splitWhole : List Char → List Char × List Char
  | '0' :: rest => (['0'], rest)
  | cs => (cs.takeWhile Text.isDigit, cs.dropWhile Text.isDigit)

/-- A number after its sign; `start` is what remained where the value begins. -/
def readNumber (start : Nat) (negative : Bool) (cs : List Char) : Except Stop (Json × List Char) :=
  let (whole, rest) := splitWhole cs
  if whole.isEmpty then .error ⟨.expectingValue, start⟩
  else
    let (fraction, rest) := splitFraction rest
    let (exponent, rest) := splitExponent rest
    if fraction.isEmpty && exponent.isNone then
      if digitLimit < whole.length then .error ⟨.tooManyDigits whole.length, start⟩
      else
        let size : Int := digitsValue whole
        .ok (.int (if negative then -size else size), rest)
    else
      .ok (.float (.ofDecimal negative (digitsValue (whole ++ fraction))
        (exponent.getD 0 - fraction.length)), rest)

def wordValues : List (List Char × Json) :=
  [("null".toList, .null), ("true".toList, .bool true), ("false".toList, .bool false),
   ("NaN".toList, .float .nan), ("Infinity".toList, .float (.infinite false)),
   ("-Infinity".toList, .float (.infinite true))]

def readWord? (cs : List Char) : Option (Json × List Char) :=
  wordValues.findSome? fun (word, value) => (word.isPrefixOf? cs).map (value, ·)

mutual

def readValue : Nat → List Char → Except Stop (Json × List Char)
  | 0, cs => .error ⟨.expectingValue, cs.length⟩
  | fuel + 1, cs =>
    match cs with
    | '"' :: rest => do
      let (text, rest) ← readText cs.length (rest.length + 1) [] rest
      pure (.str text, rest)
    | '[' :: rest =>
      match skipGap rest with
      | ']' :: rest => .ok (.arr [], rest)
      | rest => do
        let (items, rest) ← readItems fuel [] rest
        pure (.arr items, rest)
    | '{' :: rest =>
      match skipGap rest with
      | '}' :: rest => .ok (.obj [], rest)
      | rest => do
        let (fields, rest) ← readFields fuel [] rest
        pure (.obj fields, rest)
    | cs =>
      match readWord? cs with
      | some found => .ok found
      | none =>
        match cs with
        | '-' :: rest => readNumber cs.length true rest
        | cs => readNumber cs.length false cs

/-- The items of a list, up to the bracket that closes it; `read` holds, in reverse, those before. -/
def readItems : Nat → List Json → List Char → Except Stop (List Json × List Char)
  | 0, _, cs => .error ⟨.expectingValue, cs.length⟩
  | fuel + 1, read, cs => do
    let (item, rest) ← readValue fuel cs
    match skipGap rest with
    | ']' :: rest => pure ((item :: read).reverse, rest)
    | ',' :: rest => readItems fuel (item :: read) (skipGap rest)
    | rest => throw ⟨.expectingComma, rest.length⟩

/-- The entries of a mapping, up to the brace that closes it; `read` holds those before. -/
def readFields : Nat → Entries Json → List Char → Except Stop (Entries Json × List Char)
  | 0, _, cs => .error ⟨.expectingName, cs.length⟩
  | fuel + 1, read, cs =>
    match cs with
    | '"' :: rest => do
      let (name, rest) ← readText cs.length (rest.length + 1) [] rest
      match skipGap rest with
      | ':' :: rest =>
        let (value, rest) ← readValue fuel (skipGap rest)
        match skipGap rest with
        | '}' :: rest => pure (read.put name value, rest)
        | ',' :: rest => readFields fuel (read.put name value) (skipGap rest)
        | rest => throw ⟨.expectingComma, rest.length⟩
      | rest => throw ⟨.expectingColon, rest.length⟩
    | cs => .error ⟨.expectingName, cs.length⟩

end

/-- The one value that a text holds, or why and where reading stopped. -/
def readChars (cs : List Char) : Except Stop Json := do
  match cs with
  | '\uFEFF' :: _ => throw ⟨.byteOrderMark, cs.length⟩
  | _ => pure ()
  let (value, rest) ← readValue (cs.length + 1) (skipGap cs)
  match skipGap rest with
  | [] => pure value
  | rest => throw ⟨.extraData, rest.length⟩

/-- The value that a text holds, or the message of the error. -/
def read (text : String) : Except String Json :=
  match readChars text.toList with
  | .ok value => .ok value
  | .error stop => .error (stop.message text.toList)

end ChatWidget.Json
