import ChatWidget.Number.Shortest
import ChatWidget.Proofs.Number.Decimal
/-!
The decimal that is written for a magnitude reads back as the magnitude. Where a short one is found this
has been checked on the way; the exact expansion reads back because nothing is lost in it.
-/
namespace ChatWidget

namespace Magnitude

theorem unit_pos : 0 < unit := Nat.pow_pos (by decide)

theorem ofParts?_self (x : Magnitude) : ofParts? x.significand x.exponent = some x := by
  unfold ofParts?
  rw [dif_pos ⟨x.significand_lt, x.exponent_le, x.normal⟩]

theorem roundedQuotient_one (n : Nat) : roundedQuotient n 1 = n := by
  unfold roundedQuotient
  dsimp only
  rw [Nat.mod_one, Nat.div_one, if_neg (by omega)]

theorem log2_numerator (x : Magnitude) : x.numerator.log2 + 1 - 53 = x.exponent := by
  have bound := x.significand_lt
  unfold numerator
  by_cases zero : x.significand = 0
  · have least : x.exponent = 0 := by
      cases x.normal with
      | inl least => exact least
      | inr full => omega
    rw [zero, least]
    decide
  have below : x.significand.log2 < 53 := (Nat.log2_lt zero).mpr bound
  have product : x.significand * 2 ^ x.exponent ≠ 0 :=
    Nat.mul_ne_zero zero (Nat.pow_pos (by decide)).ne'
  have shifted : (x.significand * 2 ^ x.exponent).log2 = x.significand.log2 + x.exponent := by
    apply (Nat.log2_eq_iff product).mpr
    constructor
    · rw [Nat.pow_add]
      exact Nat.mul_le_mul_right _ (Nat.log2_self_le zero)
    · have larger := Nat.lt_log2_self (n := x.significand)
      have total : x.significand.log2 + x.exponent + 1 = x.significand.log2 + 1 + x.exponent := by
        omega
      rw [total, Nat.pow_add]
      exact Nat.mul_lt_mul_of_pos_right larger (Nat.pow_pos (by decide))
  rw [shifted]
  cases x.normal with
  | inl least => omega
  | inr full =>
    have above : 52 ≤ x.significand.log2 := (Nat.le_log2 zero).mpr full
    omega

/-- A magnitude is its own rounding. -/
theorem ofRatio?_self (x : Magnitude) : ofRatio? x.numerator unit = some x := by
  have quotient : x.numerator * unit / unit = x.numerator := Nat.mul_div_cancel _ unit_pos
  have rounded : roundedQuotient (x.numerator * unit) (unit * 2 ^ x.exponent) = x.significand := by
    have scale : 0 < 2 ^ x.exponent * unit := Nat.mul_pos (Nat.pow_pos (by decide)) unit_pos
    have above : x.numerator * unit = x.significand * (2 ^ x.exponent * unit) := Nat.mul_assoc _ _ _
    have below : unit * 2 ^ x.exponent = 1 * (2 ^ x.exponent * unit) := by
      rw [Nat.one_mul, Nat.mul_comm]
    rw [above, below, roundedQuotient_scale _ _ scale, roundedQuotient_one]
  have small := x.significand_lt
  unfold ofRatio?
  dsimp only
  rw [quotient, log2_numerator, rounded, if_neg (by omega), ofParts?_self]

theorem numerator_pos {x : Magnitude} (nonzero : x.significand ≠ 0) : 0 < x.numerator :=
  Nat.mul_pos (Nat.pos_of_ne_zero nonzero) (Nat.pow_pos (by decide))

theorem largest_lt : 2 ^ 53 * 2 ^ 2045 ≤ 10 ^ 330 * unit := by decide +kernel

theorem numerator_lt (x : Magnitude) : x.numerator < 10 ^ 330 * unit := by
  have exponent : 2 ^ x.exponent ≤ 2 ^ 2045 := Nat.pow_le_pow_right (by decide) x.exponent_le
  have large := largest_lt
  have positive : 0 < 2 ^ x.exponent := Nat.pow_pos (by decide)
  generalize 2 ^ 2045 = power at exponent large
  have bound : x.numerator < 2 ^ 53 * power :=
    Nat.mul_lt_mul_of_lt_of_le x.significand_lt exponent (Nat.lt_of_lt_of_le positive exponent)
  exact Nat.lt_of_lt_of_le bound large

theorem pow_places : 10 ^ places = unit * 5 ^ places := by
  rw [unit, ← Nat.mul_pow]

theorem least_ge : 10 ^ 743 ≤ 5 ^ places := by decide +kernel

theorem few_digits {n k : Nat} (few : n < 10 ^ k * unit) :
    Binary64.digitCount (n * 5 ^ places) ≤ k + places := by
  have some : 0 < k + places := by
    unfold places
    omega
  have five : 0 < 5 ^ places := Nat.pow_pos (by decide)
  apply (Binary64.digitCount_le_iff some).mpr
  rw [Nat.pow_add, pow_places, ← Nat.mul_assoc]
  exact Nat.mul_lt_mul_of_pos_right few five

theorem many_digits {n k : Nat} (positive : 0 < n) (some : 0 < k) (many : 10 ^ k ≤ 5 ^ places) :
    k < Binary64.digitCount (n * 5 ^ places) := by
  apply Nat.lt_of_not_le
  intro fewer
  have less := (Binary64.digitCount_le_iff some).mp fewer
  have more := Nat.le_trans many (Nat.le_mul_of_pos_left _ positive)
  exact absurd more (Nat.not_le.mpr less)

theorem expansion_readsBack {x : Magnitude} (nonzero : x.significand ≠ 0) :
    Binary64.ofDecimal false (x.numerator * 5 ^ places) (-places) = .finite false x := by
  have positive : 0 < x.numerator * 5 ^ places :=
    Nat.mul_pos (numerator_pos nonzero) (Nat.pow_pos (by decide))
  have same : x.numerator * 5 ^ places * unit = x.numerator * 10 ^ places := by
    rw [pow_places, Nat.mul_assoc, Nat.mul_comm (5 ^ places)]
  have many := many_digits (numerator_pos nonzero) (Nat.succ_pos 742) least_ge
  have few := few_digits (numerator_lt x)
  have enough : places ≤ Binary64.digitCount (x.numerator * 5 ^ places) + 330 := by
    generalize Binary64.digitCount (x.numerator * 5 ^ places) = count at many
    unfold places
    omega
  rw [Binary64.ofDecimal_places positive enough few, ofRatio?_eq (Nat.pow_pos (by decide)) unit_pos same, ofRatio?_self]
  rfl

theorem readsBack_iff {x : Magnitude} {digits : Nat} {exponent : Int} :
    x.readsBack digits exponent = true ↔
      Binary64.ofDecimal false digits exponent = .finite false x := by
  rw [readsBack, beq_iff_eq]

theorem withDigits?_readsBack {x : Magnitude} {count : Nat} {decimal : Nat × Int}
    (found : x.withDigits? count = some decimal) :
    x.readsBack decimal.1 decimal.2 = true := by
  obtain ⟨digits, near, rfl⟩ := Option.map_eq_some_iff.mp found
  have checked := List.find?_some near
  exact checked

/-- The shortest decimal reads back. -/
theorem shortest_readsBack {x : Magnitude} (nonzero : x.significand ≠ 0) :
    Binary64.ofDecimal false x.shortest.1 x.shortest.2 = .finite false x := by
  unfold shortest
  rw [if_neg nonzero]
  cases found : (List.range 17).findSome? fun n => x.withDigits? (n + 1) with
  | none => exact expansion_readsBack nonzero
  | some decimal =>
    obtain ⟨count, -, short⟩ := List.exists_of_findSome?_eq_some found
    exact readsBack_iff.mp (withDigits?_readsBack short)

theorem shortest_pos {x : Magnitude} (nonzero : x.significand ≠ 0) : 0 < x.shortest.1 := by
  apply Nat.pos_of_ne_zero
  intro zero
  have back := shortest_readsBack nonzero
  rw [zero, Binary64.ofDecimal, if_pos (.inl rfl)] at back
  cases back
  exact nonzero rfl

theorem eq_zero {x : Magnitude} (nothing : x.significand = 0) : x = zero := by
  obtain ⟨significand, exponent, small, bound, normal⟩ := x
  dsimp only at nothing
  subst nothing
  cases normal with
  | inl least =>
    subst least
    rfl
  | inr full => omega

end Magnitude

end ChatWidget
