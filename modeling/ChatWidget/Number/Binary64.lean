/-!
Binary floating-point numbers of 64 bits, kept as exact integers: a finite magnitude is a significand
below 2^53 times a power of two from 2^-1074 on. Numbers arise from decimals by rounding to the nearest
one, where a tie goes to the even significand. All arithmetic is on naturals, so every result here can
be computed in a proof.
-/
namespace ChatWidget

-- Powers here are those of the core library, also where other powers are known.
attribute [local instance(high)] instPowNat

/-- A finite magnitude, worth its significand times `2 ^ exponent` over `2 ^ 1074`. Unless the exponent is the least
one, the significand has all its 53 bits, so each magnitude is written in one way. -/
structure Magnitude where
  significand : Nat
  exponent : Nat
  significand_lt : significand < 2 ^ (53 : Nat)
  exponent_le : exponent ≤ 2045
  normal : exponent = 0 ∨ 2 ^ (52 : Nat) ≤ significand
deriving DecidableEq

namespace Magnitude

def ofParts? (significand exponent : Nat) : Option Magnitude :=
  if h : significand < 2 ^ (53 : Nat) ∧ exponent ≤ 2045 ∧
      (exponent = 0 ∨ 2 ^ (52 : Nat) ≤ significand) then
    some ⟨significand, exponent, h.1, h.2.1, h.2.2⟩
  else none

def zero : Magnitude := ⟨0, 0, by decide, by decide, .inl rfl⟩

instance : Inhabited Magnitude := ⟨zero⟩

/-- How many binary places a magnitude has at most; it has as many decimal places at most. -/
def places : Nat := 1074

/-- How often the least magnitude goes into one. -/
def unit : Nat := 2 ^ places

/-- The whole number nearest to a quotient; a tie goes to the even one. -/
def roundedQuotient (numerator denominator : Nat) : Nat :=
  let quotient := numerator / denominator
  let rest := numerator % denominator
  if denominator < 2 * rest ∨ (2 * rest = denominator ∧ quotient % 2 = 1) then quotient + 1
  else quotient

/-- The magnitude nearest to a quotient of naturals, or `none` where that is beyond the largest one. -/
def ofRatio? (numerator denominator : Nat) : Option Magnitude :=
  let scaled := numerator * unit
  let exponent := (scaled / denominator).log2 + 1 - 53
  let significand := roundedQuotient scaled (denominator * 2 ^ exponent)
  if significand = 2 ^ (53 : Nat) then ofParts? (2 ^ (52 : Nat)) (exponent + 1)
  else ofParts? significand exponent

/-- How often the least magnitude goes into the magnitude. -/
def numerator (x : Magnitude) : Nat := x.significand * 2 ^ x.exponent

end Magnitude

/-- A floating-point number: finite with a sign, infinite with a sign, or not a number. Zero has a sign
too. -/
inductive Binary64 where
  | finite (negative : Bool) (magnitude : Magnitude)
  | infinite (negative : Bool)
  | nan
deriving DecidableEq, Inhabited

namespace Binary64

/-- How many decimal digits a natural has; zero has one. -/
def digitCount (n : Nat) : Nat := (Nat.toDigits 10 n).length

/-- The number with the given sign whose magnitude comes from rounding; without one it is infinite. -/
def ofRounded (negative : Bool) : Option Magnitude → Binary64
  | some magnitude => .finite negative magnitude
  | none => .infinite negative

/-- The number nearest to `digits * 10 ^ exponent`, with the given sign. What is beyond the largest
finite number is infinite; exponents far outside the range are settled without computing the power. -/
def ofDecimal (negative : Bool) (digits : Nat) (exponent : Int) : Binary64 :=
  let size := digitCount digits + exponent
  if digits = 0 ∨ size < -330 then .finite negative .zero
  else if 330 < size then .infinite negative
  else
    .ofRounded negative
      (Magnitude.ofRatio? (digits * 10 ^ exponent.toNat) (10 ^ (-exponent).toNat))

def isZero : Binary64 → Bool
  | .finite _ magnitude => magnitude.significand == 0
  | _ => false

/-- Is the number at least the given whole number? Not a number is not. -/
def atLeast (bound : Nat) : Binary64 → Bool
  | .finite negative magnitude => !negative && bound * Magnitude.unit ≤ magnitude.numerator
  | .infinite negative => !negative
  | .nan => false

def ofInt (n : Int) : Binary64 := ofDecimal (n < 0) n.natAbs 0

end Binary64

end ChatWidget
