import ChatWidget.Settings.Yaml
import ChatWidget.Text.Blank
/-!
The sorts of values that a setting can have, and how a given value is taken for one: texts only from
texts, numbers also from texts that read as numbers, truth values also from zero, one and the usual words.
-/
namespace ChatWidget

inductive FieldCause where
  | notText
  | notNumber
  | notReadAsNumber
  | lessThanOne
  | notTruthValue
  | notReadAsTruthValue
deriving DecidableEq

namespace FieldCause

def name : FieldCause → String
  | notText => "string_type"
  | notNumber => "float_type"
  | notReadAsNumber => "float_parsing"
  | lessThanOne => "greater_than_equal"
  | notTruthValue => "bool_type"
  | notReadAsTruthValue => "bool_parsing"

def message : FieldCause → String
  | notText => "Input should be a valid string"
  | notNumber => "Input should be a valid number"
  | notReadAsNumber => "Input should be a valid number, unable to parse string as a number"
  | lessThanOne => "Input should be greater than or equal to 1"
  | notTruthValue => "Input should be a valid boolean"
  | notReadAsTruthValue => "Input should be a valid boolean, unable to interpret input"

end FieldCause

namespace Field

def text : Yaml → Except FieldCause String
  | .str value => .ok value
  | _ => .error .notText

def optionalText : Yaml → Except FieldCause (Option String)
  | .null => .ok none
  | value => (text value).map some

/-- A blank around a number: as elsewhere, but for the four separators among the control characters. -/
def isNumberBlank (c : Char) : Bool :=
  Text.isBlank c && !(0x1C ≤ c.toNat && c.toNat ≤ 0x1F)

def smallLetter (c : Char) : Char :=
  if 0x41 ≤ c.toNat && c.toNat ≤ 0x5A then Char.ofNat (c.toNat + 0x20) else c

/-- The number that a decimal numeral stands for: digits with or without a point, and an exponent. -/
def numeral? (negative : Bool) (cs : List Char) : Option Binary64 :=
  let whole := cs.takeWhile Text.isDigit
  let rest := cs.dropWhile Text.isDigit
  let (fraction, rest) := match rest with
    | '.' :: rest => (rest.takeWhile Text.isDigit, rest.dropWhile Text.isDigit)
    | rest => ([], rest)
  if whole.isEmpty && fraction.isEmpty then none
  else
    let value (exponent : Int) : Binary64 :=
      .ofDecimal negative (Yaml.digitsIn 10 (whole ++ fraction)) (exponent - fraction.length)
    match rest with
    | [] => some (value 0)
    | e :: rest =>
      if smallLetter e ≠ 'e' then none
      else
        let (down, digits) := Yaml.splitSign rest
        if digits.isEmpty || !digits.all Text.isDigit then none
        else
          let size : Int := Yaml.digitsIn 10 digits
          some (value (if down then -size else size))

/-- The number that a text without blanks stands for. -/
def numberText? (cs : List Char) : Option Binary64 :=
  let (negative, size) := Yaml.splitSign cs
  let word := String.ofList (size.map smallLetter)
  if word = "inf" || word = "infinity" then some (.infinite negative)
  else if word = "nan" then some .nan
  else numeral? negative size

/-- A text without its underscores, if none of them stands at an end or beside another. -/
def withoutUnderscores? (cs : List Char) : Option (List Char) :=
  let parts := Text.splitAt '_' cs
  if parts.length ≤ 1 || parts.any List.isEmpty then none else some parts.flatten

/-- The number that a text stands for, with blanks around it or underscores within. -/
def readNumber (cs : List Char) : Option Binary64 :=
  let trimmed := ((cs.dropWhile isNumberBlank).reverse.dropWhile isNumberBlank).reverse
  match numberText? trimmed with
  | some x => some x
  | none => withoutUnderscores? cs >>= numberText?

def number : Yaml → Except FieldCause Binary64
  | .float x => .ok x
  | .bool value => .ok (.ofInt (if value then 1 else 0))
  | .int n => match Binary64.ofInt n with
    | .infinite _ => .error .notNumber
    | x => .ok x
  | .str text => match readNumber text.toList with
    | some x => .ok x
    | none => .error .notReadAsNumber
  | _ => .error .notNumber

def numberFromOne (value : Yaml) : Except FieldCause Binary64 := do
  let x ← number value
  if x.atLeast 1 then pure x else throw .lessThanOne

def truthWord? (word : String) : Option Bool :=
  if ["1", "true", "t", "yes", "y", "on"].contains word then some true
  else if ["0", "false", "f", "no", "n", "off"].contains word then some false
  else none

/-- The whole number that a floating-point number is, if it is one of at most 63 bits. -/
def wholeNumber? : Binary64 → Option Int
  | .finite negative x =>
    let size : Nat := x.numerator / Magnitude.unit
    if x.numerator % Magnitude.unit = 0 && size < 0x8000000000000000 then
      some (if negative then -(size : Int) else size)
    else none
  | _ => none

/-- A whole number taken as a truth value. -/
def truthNumber (n : Int) : Except FieldCause Bool :=
  if n = 0 then .ok false else if n = 1 then .ok true else .error .notReadAsTruthValue

def truth : Yaml → Except FieldCause Bool
  | .bool value => .ok value
  | .int n => truthNumber n
  | .str text => match truthWord? (String.ofList (text.toList.map smallLetter)) with
    | some value => .ok value
    | none => .error .notReadAsTruthValue
  | .float x => match wholeNumber? x with
    | some n => truthNumber n
    | none => .error .notTruthValue
  | _ => .error .notTruthValue

end Field

end ChatWidget
