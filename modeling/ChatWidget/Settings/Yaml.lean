import ChatWidget.Instant
import ChatWidget.Json.Value
import ChatWidget.Text.LowerCase
/-!
Configuration files: the values that such a file can hold, and what a word in one stands for when it is
not quoted. Besides texts there are null, truth values, whole numbers in several bases, numbers with a
fraction, and dates.
-/
namespace ChatWidget

/-- A value of a configuration file. Of a date nothing is kept but that it is one. A word that reads as a
number or a date may be one that there is not. -/
inductive Yaml where
  | null
  | bool (value : Bool)
  | int (value : Int)
  | float (value : Binary64)
  | str (value : String)
  | date
  | impossible
  | seq (items : List Yaml)
  | map (entries : List (Yaml × Yaml))
deriving Inhabited

namespace Yaml

/-- Does the value count as present? -/
def isTruthy : Yaml → Bool
  | .null => false
  | .bool value => value
  | .int value => value != 0
  | .float value => !value.isZero
  | .str value => value != ""
  | .date | .impossible => true
  | .seq items => !items.isEmpty
  | .map entries => !entries.isEmpty

def isKey : Yaml → Bool
  | .seq _ | .map _ => false
  | _ => true

mutual

/-- Is everything in the value a number or a date that there is? -/
def isPossible : Yaml → Bool
  | .impossible => false
  | .seq items => arePossible items
  | .map entries => entriesArePossible entries
  | _ => true

def arePossible : List Yaml → Bool
  | [] => true
  | item :: rest => isPossible item && arePossible rest

def entriesArePossible : List (Yaml × Yaml) → Bool
  | [] => true
  | (key, value) :: rest => isPossible key && isPossible value && entriesArePossible rest

end

mutual

def ofJson : Json → Yaml
  | .null => .null
  | .bool value => .bool value
  | .int value => .int value
  | .float value => .float value
  | .str value => .str value
  | .arr items => .seq (ofItems items)
  | .obj fields => .map (ofFields fields)

def ofItems : List Json → List Yaml
  | [] => []
  | item :: rest => ofJson item :: ofItems rest

def ofFields : List (String × Json) → List (Yaml × Yaml)
  | [] => []
  | (name, value) :: rest => (.str name, ofJson value) :: ofFields rest

end

/-! ### Words -/

def nullWords : List String := ["", "~", "null", "Null", "NULL"]

def trueWords : List String := ["yes", "Yes", "YES", "true", "True", "TRUE", "on", "On", "ON"]

def falseWords : List String := ["no", "No", "NO", "false", "False", "FALSE", "off", "Off", "OFF"]

/-- A word without its sign, and whether that is a minus. -/
def splitSign : List Char → Bool × List Char
  | '-' :: rest => (true, rest)
  | '+' :: rest => (false, rest)
  | cs => (false, cs)

/-- The number that digits of a base stand for; underscores do not count. -/
def digitsIn (base : Nat) (cs : List Char) : Nat :=
  cs.foldl (fun n c => match Text.hexValue? c with
    | some d => n * base + d
    | none => n) 0

def isDigitOrLow (c : Char) : Bool := Text.isDigit c || c = '_'

/-- A part after a colon: one or two digits below sixty. -/
def isSixtieth : List Char → Bool
  | [d] => Text.isDigit d
  | [t, d] => '0' ≤ t && t ≤ '5' && Text.isDigit d
  | _ => false

def colonParts : List Char → List (List Char)
  | [] => [[]]
  | c :: rest =>
    if c = ':' then [] :: colonParts rest
    else match colonParts rest with
      | [] => [[c]]
      | part :: parts => (c :: part) :: parts

/-- The size of a whole number, without its sign. -/
def wholeSize? (cs : List Char) : Option Nat :=
  match cs with
  | '0' :: 'b' :: digits =>
    if !digits.isEmpty && digits.all (fun c => c = '0' || c = '1' || c = '_') then
      some (digitsIn 2 digits) else none
  | '0' :: 'x' :: digits =>
    if !digits.isEmpty && digits.all (fun c => Text.isHexDigit c || c = '_') then
      some (digitsIn 16 digits) else none
  | ['0'] => some 0
  | '0' :: digits =>
    if digits.all (fun c => ('0' ≤ c && c ≤ '7') || c = '_') then some (digitsIn 8 digits) else none
  | c :: _ =>
    if !Text.isDigit c then none
    else match colonParts cs with
      | [only] => if only.all isDigitOrLow then some (digitsIn 10 only) else none
      | first :: parts =>
        if first.all isDigitOrLow && parts.all isSixtieth then
          some (parts.foldl (fun n part => n * 60 + digitsIn 10 part) (digitsIn 10 first))
        else none
      | [] => none
  | [] => none

/-- Is there the number that a word for a whole number, without its sign, stands for? After the mark of a
base some digit has to come, and of decimal digits there are only so many. -/
def isWholePossible : List Char → Bool
  | '0' :: 'b' :: digits | '0' :: 'x' :: digits => digits.any (· ≠ '_')
  | '0' :: _ => true
  | cs => (((colonParts cs).headD []).filter Text.isDigit).length ≤ Json.digitLimit

/-- The exponent behind a number; it has a sign. -/
def exponent? : List Char → Option Int
  | [] => some 0
  | e :: sign :: digits =>
    if (e = 'e' || e = 'E') && (sign = '-' || sign = '+') && !digits.isEmpty &&
        digits.all Text.isDigit then
      let size : Int := digitsIn 10 digits
      some (if sign = '-' then -size else size)
    else none
  | _ => none

/-- A number with a point, without its sign. Parts before a colon count sixty times the next. -/
def pointNumber? (negative : Bool) (cs : List Char) : Option Binary64 :=
  let whole := cs.takeWhile (· ≠ '.')
  match cs.dropWhile (· ≠ '.') with
  | [] => none
  | _ :: rest =>
    let fraction := rest.takeWhile isDigitOrLow
    let places : Int := (fraction.filter Text.isDigit).length
    match colonParts whole, exponent? (rest.dropWhile isDigitOrLow) with
    | [only], some exponent =>
      let startsWell := match only, fraction with
        | [], d :: _ => Text.isDigit d
        | d :: _, _ => Text.isDigit d && only.all isDigitOrLow
        | [], [] => false
      if startsWell then
        some (.ofDecimal negative (digitsIn 10 (only ++ fraction)) (exponent - places))
      else none
    | first :: parts, some 0 =>
      match first with
      | d :: _ =>
        if Text.isDigit d && first.all isDigitOrLow && parts.all isSixtieth &&
            (rest.dropWhile isDigitOrLow).isEmpty then
          let size := parts.foldl (fun n part => n * 60 + digitsIn 10 part) (digitsIn 10 first)
          some (.ofDecimal negative (size * Nat.pow 10 places.toNat + digitsIn 10 fraction) (-places))
        else none
      | [] => none
    | _, _ => none

/-- A number with a fraction, or one of the words for what is infinite or no number. -/
def fractional? (cs : List Char) : Option Binary64 :=
  let (negative, size) := splitSign cs
  if [".inf", ".Inf", ".INF"].contains (String.ofList size) then some (.infinite negative)
  else if [".nan", ".NaN", ".NAN"].contains (String.ofList cs) then some .nan
  else if size.head? = some '.' && size.length ≠ cs.length then none
  else pointNumber? negative size

def digitsThen (least most : Nat) (mark : Option Char) (cs : List Char) : Option (List Char) :=
  let digits := cs.takeWhile Text.isDigit
  let rest := cs.dropWhile Text.isDigit
  if digits.length < least || most < digits.length then none
  else match mark, rest with
    | none, rest => some rest
    | some m, c :: rest => if c = m then some rest else none
    | some _, [] => none

/-- Does a word read as a date, or as a date with a time of day? -/
def isDate (cs : List Char) : Bool :=
  let day := digitsThen 4 4 (some '-') cs >>= digitsThen 2 2 (some '-') >>= digitsThen 2 2 none
  if day = some [] then true
  else
    let isGap (c : Char) : Bool := c = ' ' || c = '\t'
    match digitsThen 4 4 (some '-') cs >>= digitsThen 1 2 (some '-') >>= digitsThen 1 2 none with
    | none => false
    | some rest =>
      let time := match rest with
        | 't' :: time | 'T' :: time => some time
        | c :: time => if isGap c then some (time.dropWhile isGap) else none
        | [] => none
      match time >>= digitsThen 1 2 (some ':') >>= digitsThen 2 2 (some ':') >>=
          digitsThen 2 2 none with
      | none => false
      | some rest =>
        let rest := match rest with
          | '.' :: rest => rest.dropWhile Text.isDigit
          | rest => rest
        match rest.dropWhile isGap with
        | [] => rest.isEmpty
        | ['Z'] => true
        | sign :: zone =>
          (sign = '-' || sign = '+') &&
            match digitsThen 1 2 none zone with
            | some [] => true
            | some (':' :: minutes) => digitsThen 2 2 none minutes = some []
            | _ => false

def numbersIn (word : List Char) : List Nat :=
  let parts := colonParts (word.map fun c => if Text.isDigit c then c else ':')
  (parts.filter (!·.isEmpty)).map (digitsIn 10)

def isDay (year month day : Nat) : Bool :=
  1 ≤ year && 1 ≤ month && month ≤ 12 && 1 ≤ day &&
    Instant.date (Instant.dayOfDate year month day) = ((year : Int), month, day)

/-- Is a time zone, behind its sign, less than a day away? -/
def isZone (cs : List Char) : Bool :=
  match numbersIn cs with
  | [hour] => hour < 24
  | hour :: minute :: _ => hour * 60 + minute < 1440
  | [] => true

def isDatePossible (word : List Char) : Bool :=
  let isSign (c : Char) : Bool := c = '-' || c = '+'
  match numbersIn word with
  | [year, month, day] => isDay year month day
  | year :: month :: day :: hour :: minute :: second :: _ =>
    isDay year month day && hour < 24 && minute < 60 && second < 60 &&
      ((word.filter isSign).length ≤ 2 || isZone (word.reverse.takeWhile (! isSign ·)).reverse)
  | _ => true

/-- What a word stands for when it is not quoted. Two words are set aside for other uses. -/
def ofWord (word : List Char) : Option Yaml :=
  let text := String.ofList word
  if text = "<<" || text = "=" then none
  else if nullWords.contains text then some .null
  else if trueWords.contains text then some (.bool true)
  else if falseWords.contains text then some (.bool false)
  else
    let (negative, size) := splitSign word
    match wholeSize? size with
    | some n =>
      some (if isWholePossible size then .int (if negative then -n else n) else .impossible)
    | none => match fractional? word with
      | some x => some (.float x)
      | none =>
        if !isDate word then some (.str text)
        else some (if isDatePossible word then .date else .impossible)

end Yaml

end ChatWidget
