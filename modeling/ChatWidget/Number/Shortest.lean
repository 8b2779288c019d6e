import ChatWidget.Number.Binary64
/-!
The shortest decimal of a floating-point number: the fewest significant digits that read back as the
number, and of those the nearest to it. A number is written positionally from 10^-4 up to below 10^16,
and with an exponent of at least two digits outside that range.
-/
namespace ChatWidget

attribute [local instance(high)] instPowNat

namespace Magnitude

def readsBack (x : Magnitude) (digits : Nat) (exponent : Int) : Bool :=
  Binary64.ofDecimal false digits exponent == .finite false x

/-- The two decimals next to the magnitude on the grid of multiples of `10 ^ exponent`, the nearer one
first; of two equally near ones, the one whose last digit is even. -/
def neighbours (x : Magnitude) (exponent : Int) : List Nat :=
  let (numerator, denominator) := match exponent with
    | .ofNat up => (x.numerator, unit * 10 ^ up)
    | .negSucc down => (x.numerator * 10 ^ (down + 1), unit)
  let below := numerator / denominator
  let rest := numerator % denominator
  if 2 * rest < denominator ∨ (2 * rest = denominator ∧ below % 2 = 0) then [below, below + 1]
  else [below + 1, below]

/-- The exponent of the leading decimal digit of a magnitude that is not zero. -/
def leadingExponent (x : Magnitude) : Int :=
  (Binary64.digitCount (x.numerator * 10 ^ (340 : Nat) / unit) : Int) - 341

/-- The decimal of `count` significant digits that reads back as the magnitude, if there is one. -/
def withDigits? (x : Magnitude) (count : Nat) : Option (Nat × Int) :=
  let exponent := x.leadingExponent - count + 1
  ((x.neighbours exponent).find? (x.readsBack · exponent)).map (·, exponent)

/-- The shortest decimal that reads back as the magnitude. Seventeen digits always do; the exact
expansion stands behind them. -/
def shortest (x : Magnitude) : Nat × Int :=
  if x.significand = 0 then (0, 0)
  else match (List.range 17).findSome? fun n => x.withDigits? (n + 1) with
    | some decimal => decimal
    | none => (x.numerator * 5 ^ places, -places)

end Magnitude

namespace Binary64

def significantDigits (n : Nat) : List Char :=
  ((Nat.toDigits 10 n).reverse.dropWhile (· == '0')).reverse

/-- The digits of a decimal whose point stands after the first `point` of them. -/
def layOut (digits : List Char) (point : Int) : List Char :=
  if -4 < point ∧ point ≤ 16 then
    if point ≤ 0 then '0' :: '.' :: (List.replicate (-point).toNat '0' ++ digits)
    else
      let whole := point.toNat
      if digits.length ≤ whole then
        digits ++ List.replicate (whole - digits.length) '0' ++ ['.', '0']
      else digits.take whole ++ '.' :: digits.drop whole
  else
    let exponent := point - 1
    let size := Nat.toDigits 10 exponent.natAbs
    let tail := match digits with
      | [] => []
      | [d] => [d]
      | d :: rest => d :: '.' :: rest
    tail ++ 'e' :: (if exponent < 0 then '-' else '+') ::
      (List.replicate (2 - size.length) '0' ++ size)

def magnitudeText (x : Magnitude) : List Char :=
  if x.significand = 0 then ['0', '.', '0']
  else
    let (digits, exponent) := x.shortest
    layOut (significantDigits digits) (digitCount digits + exponent)

/-- The text of a number, given the spellings of an infinite one and of what is not a number. -/
def textWith (infinity notANumber : String) : Binary64 → List Char
  | .finite negative magnitude => (if negative then ['-'] else []) ++ magnitudeText magnitude
  | .infinite negative => (if negative then ['-'] else []) ++ infinity.toList
  | .nan => notANumber.toList

def text (x : Binary64) : String := String.ofList (x.textWith "inf" "nan")

end Binary64

end ChatWidget
