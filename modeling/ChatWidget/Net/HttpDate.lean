import ChatWidget.Fault
import ChatWidget.Instant
import ChatWidget.Text.Blank
import ChatWidget.Text.LowerCase
/-!
Dates as servers write them. The one form that is prescribed is read as it stands. Every other form is
read leniently: a day of the week does not count, blanks, dashes or slashes stand between day, month and
year, and a time of day and a time zone may follow. What is no date at all, or one before 1970, reads as
nothing.
-/
namespace ChatWidget.HttpDate

def monthNames : List (List Char) :=
  ["jan", "feb", "mar", "apr", "may", "jun", "jul", "aug", "sep", "oct", "nov", "dec"].map
    String.toList

def monthNamed? (name : List Char) : Option Nat := (monthNames.idxOf? name).map (· + 1)

def isSpace (c : Char) : Bool := c = ' ' || (0x09 ≤ c.toNat && c.toNat ≤ 0x0D)

def isWordChar (c : Char) : Bool := Text.isLetter c || Text.isDigit c || c = '_'

def numeral (digits : List Char) : Nat := digits.foldl (fun n d => 10 * n + Text.digitValue d) 0

structure Fields where
  year : Int
  month : Nat
  day : Nat
  hour : Nat := 0
  minute : Nat := 0
  second : Nat := 0

/-- The seconds from the start of 1970 to a date, if it is not earlier and its parts are in range. -/
def Fields.seconds? (d : Fields) : Option Int :=
  if 1970 ≤ d.year ∧ 1 ≤ d.month ∧ d.month ≤ 12 ∧ 1 ≤ d.day ∧ d.day ≤ 31 ∧ d.hour ≤ 24 ∧
      d.minute ≤ 59 ∧ d.second ≤ 61 then
    some (((Instant.dayOfDate d.year d.month d.day * 24 + d.hour) * 60 + d.minute) * 60 + d.second)
  else none

/-! ### The prescribed form -/

/-- Is the text a name of three letters that begins with one of the given capitals? -/
def isShortName (capitals : String) : List Char → Bool
  | [a, b, c] => capitals.toList.contains a && [b, c].all fun c => Text.isLetter c && c.toNat ≥ 0x61
  | _ => false

/-- A date in the prescribed form, cut into day, month, year, hour, minute and second. -/
def prescribed? (cs : List Char) : Option (List (List Char)) :=
  let piece (start length : Nat) : List Char := (cs.drop start).take length
  let numbers := [piece 5 2, piece 12 4, piece 17 2, piece 20 2, piece 23 2]
  if cs.length = 29 && isShortName "SMTWF" (piece 0 3) && isShortName "JFMASOND" (piece 8 3) &&
      numbers.all (·.all Text.isDigit) && piece 3 2 = ", ".toList && piece 7 1 = [' '] &&
      piece 11 1 = [' '] && piece 16 1 = [' '] && piece 19 1 = [':'] && piece 22 1 = [':'] &&
      piece 25 4 = " GMT".toList then
    some [piece 5 2, piece 8 3, piece 12 4, piece 17 2, piece 20 2, piece 23 2]
  else none

/-! ### Other forms -/

def dropWeekday (cs : List Char) : List Char :=
  let names := ["sun", "mon", "tue", "wed", "thu", "fri", "sat"].map String.toList
  if names.contains (Text.lower (cs.take 3)) then
    let rest := (cs.drop 3).dropWhile Text.isLetter
    (if rest.head? = some ',' then rest.drop 1 else rest).dropWhile isSpace
  else cs

def dropSeparator? : List Char → Option (List Char)
  | c :: rest =>
    if isSpace c then some (rest.dropWhile isSpace)
    else if c = '-' || c = '/' then some rest
    else none
  | [] => none

/-- Two digits, or at least the one, in front of a text. -/
def takeNumeral? (least : Nat) (cs : List Char) : Option (Nat × List Char) :=
  let digits := (cs.take 2).takeWhile Text.isDigit
  if least ≤ digits.length then some (numeral digits, cs.drop digits.length) else none

/-- A time of day in front of a text, after a blank or a colon. -/
def takeClock? (cs : List Char) : Option (Nat × Nat × Nat × List Char) := do
  let start ← match cs with
    | c :: rest =>
      if isSpace c then some (rest.dropWhile isSpace) else if c = ':' then some rest else none
    | [] => none
  let (hour, rest) ← takeNumeral? 1 start
  let rest ← if rest.head? = some ':' then some (rest.drop 1) else none
  let (minute, rest) ← takeNumeral? 2 rest
  match rest with
  | ':' :: more => match takeNumeral? 2 more with
    | some (second, rest) => some (hour, minute, second, rest)
    | none => some (hour, minute, 0, rest)
  | rest => some (hour, minute, 0, rest)

def zoneOffset? (zone : List Char) : Option Int :=
  let name := zone.map Text.upperAscii
  if ["GMT", "UTC", "UT", "Z"].contains (String.ofList name) then some 0
  else
    let digits := if zone.head? = some '+' || zone.head? = some '-' then zone.drop 1 else zone
    if digits.isEmpty || !digits.all Text.isDigit then none
    else
      let hours := digits.take (if digits.length = 3 then 1 else 2)
      let size : Int := 3600 * numeral hours + 60 * numeral (digits.drop hours.length)
      some (if zone.head? = some '-' then -size else size)

/-- A time zone in front of a text: up to four digits with or without a sign, or a word. The words for
the halves of the day are no zones. -/
def takeZone (cs : List Char) : Option (List Char) × List Char :=
  let signed := cs.head? = some '+' || cs.head? = some '-'
  let digits := ((if signed then cs.drop 1 else cs).takeWhile Text.isDigit).take 4
  let word := cs.takeWhile Text.isLetter
  let half := ["am", "pm"].contains (String.ofList (Text.lower (cs.takeWhile isWordChar)))
  if 2 ≤ digits.length then
    let zone := cs.take (digits.length + if signed then 1 else 0)
    (some zone, (cs.drop zone.length).dropWhile isSpace)
  else if !word.isEmpty && !half then (some word, (cs.drop word.length).dropWhile isSpace)
  else (none, cs)

/-- The text without a word in parentheses in front. -/
def dropNote (cs : List Char) : List Char :=
  match cs with
  | '(' :: rest =>
    let word := rest.takeWhile isWordChar
    match rest.drop word.length with
    | ')' :: rest => if word.isEmpty then cs else rest.dropWhile isSpace
    | _ => cs
  | cs => cs

/-- The month that a word means: a name of three letters, or a number. -/
def month? (word : List Char) : Option Nat :=
  (monthNamed? (Text.lower word)).or
    (if word.all Text.isDigit && 1 ≤ numeral word && numeral word ≤ 12 then some (numeral word)
     else none)

/-- The year that is meant by one with fewer than four digits: the nearest to the present year. -/
def fullYear (thisYear : Int) (year : Nat) : Int :=
  if 1000 ≤ year then year
  else
    let century := thisYear - thisYear % 100
    let ahead := thisYear % 100 - year
    let full := year + century
    if ahead > 50 then full + 100 else if ahead < -50 then full - 100 else full

/-- The seconds from the start of 1970 to a date in a lenient form, read in a given year. -/
def lenient? (thisYear : Int) (cs : List Char) : Option Int := do
  let cs := dropWeekday (Text.stripLeft cs)
  let (day, rest) ← takeNumeral? 1 cs
  let rest ← dropSeparator? rest
  let month := rest.takeWhile isWordChar
  let rest ← dropSeparator? (rest.drop month.length)
  let year := rest.takeWhile Text.isDigit
  let rest := rest.drop year.length
  let (hour, minute, second, rest) := (takeClock? rest).getD (0, 0, 0, rest)
  let (zone, rest) := takeZone (rest.dropWhile isSpace)
  if month.isEmpty || year.isEmpty || !(dropNote rest).isEmpty then none
  else if 9999 < numeral year then none
  else do
    let fields : Fields :=
      ⟨fullYear thisYear (numeral year), ← month? month, day, hour, minute, second⟩
    let seconds ← fields.seconds?
    pure (seconds - (← zoneOffset? (zone.getD "UTC".toList)))

/-- The seconds from the start of 1970 to a date, read at a given second. A month that is none fails
in the prescribed form. -/
def read (now : Int) (cs : List Char) : Except Fault (Option Int) :=
  match prescribed? cs with
  | some [day, month, year, hour, minute, second] =>
    match monthNamed? (Text.lower month) with
    | none => .error (.badValue "")
    | some month =>
      let fields : Fields :=
        ⟨numeral year, month, numeral day, numeral hour, numeral minute, numeral second⟩
      .ok fields.seconds?
  | _ => .ok (lenient? (Instant.date (now.fdiv 86400)).1 cs)

end ChatWidget.HttpDate
