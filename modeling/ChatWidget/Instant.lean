import ChatWidget.Number.Binary64
/-!
Points in time, to the microsecond, and their date and time of day in the calendar. Seconds given as a
floating-point number are taken to the nearest microsecond; a tie goes to the even one.
-/
namespace ChatWidget

/-- A point in time, counted in microseconds from the start of 1970. -/
structure Instant where
  microseconds : Int

namespace Instant

def perSecond : Nat := 1000000

/-- The microseconds in a magnitude of seconds. The fraction is scaled in floating point and then
rounded. -/
def ofMagnitude (x : Magnitude) : Nat :=
  let one := Magnitude.unit
  let fraction := match Magnitude.ofRatio? (x.numerator % one * perSecond) one with
    | some scaled => Magnitude.roundedQuotient scaled.numerator one
    | none => 0
  x.numerator / one * perSecond + fraction

/-- The point so many seconds after the start of 1970; the infinite and what is not a number are no
points in time. -/
def ofSeconds? : Binary64 → Option Instant
  | .finite negative x =>
    let size : Int := ofMagnitude x
    some ⟨if negative then -size else size⟩
  | _ => none

def ofWholeSeconds (n : Int) : Instant := ⟨n * perSecond⟩

/-- The year, month and day of a day counted from the start of 1970. Years are counted from March, so
that the leap day is the last day of a year. -/
def date (day : Int) : Int × Nat × Nat :=
  let shifted := day + 719468
  let era := shifted.fdiv 146097
  let dayOfEra := (shifted - era * 146097).toNat
  let yearOfEra := (dayOfEra - dayOfEra / 1460 + dayOfEra / 36524 - dayOfEra / 146096) / 365
  let dayOfYear := dayOfEra - (365 * yearOfEra + yearOfEra / 4 - yearOfEra / 100)
  let month := (5 * dayOfYear + 2) / 153
  let dayOfMonth := dayOfYear - (153 * month + 2) / 5 + 1
  let (month, carry) : Nat × Int := if month < 10 then (month + 3, 0) else (month - 9, 1)
  (yearOfEra + era * 400 + carry, month, dayOfMonth)

/-- The day, counted from the start of 1970, of a date; days past the end of a month run on. -/
def dayOfDate (year : Int) (month day : Nat) : Int :=
  let shifted := if month ≤ 2 then year - 1 else year
  let era := shifted.fdiv 400
  let yearOfEra := (shifted - era * 400).toNat
  let fromMarch := if month ≤ 2 then month + 9 else month - 3
  let dayOfYear : Int := ((153 * fromMarch + 2) / 5 : Nat) + (day : Int) - 1
  era * 146097 + (yearOfEra * 365 + yearOfEra / 4 - yearOfEra / 100 : Nat) + dayOfYear - 719468

/-- A number with at least so many decimal digits. -/
def padded (width n : Nat) : String :=
  let digits := toString n
  String.ofList (List.replicate (width - digits.length) '0') ++ digits

/-- The date and the time of day, with the fraction of a second only if there is one. -/
def text (instant : Instant) : String :=
  let second := instant.microseconds.fdiv perSecond
  let fraction := (instant.microseconds - second * perSecond).toNat
  let day := second.fdiv 86400
  let ofDay := (second - day * 86400).toNat
  let (year, month, dayOfMonth) := date day
  padded 4 year.toNat ++ "-" ++ padded 2 month ++ "-" ++ padded 2 dayOfMonth ++ "T" ++
    padded 2 (ofDay / 3600) ++ ":" ++ padded 2 (ofDay / 60 % 60) ++ ":" ++ padded 2 (ofDay % 60) ++
    (if fraction = 0 then "" else "." ++ padded 6 fraction) ++ "Z"

end Instant

end ChatWidget
