import ChatWidget.Number.Binary64
import Mathlib.Data.Nat.Log
import Mathlib.Tactic.Ring
/-!
What a decimal is worth decides what it is rounded to: whether a power of ten is written out in the digits
or in the exponent makes no difference. So a number may be laid out in any way that keeps its worth.
-/
namespace ChatWidget

namespace Binary64

theorem digitCount_pos (n : Nat) : 0 < digitCount n := Nat.length_toDigits_pos

theorem digitCount_le_iff {n k : Nat} (some : 0 < k) : digitCount n ≤ k ↔ n < 10 ^ k :=
  Nat.length_toDigits_le_iff (by decide) some

theorem lt_pow_digitCount (n : Nat) : n < 10 ^ digitCount n :=
  (digitCount_le_iff (digitCount_pos n)).mp (Nat.le_refl _)

theorem pow_le_of_lt_digitCount {n k : Nat} (positive : 0 < n) (fewer : k < digitCount n) :
    10 ^ k ≤ n := by
  cases k with
  | zero => exact positive
  | succ k =>
    by_contra small
    have bound := (digitCount_le_iff (Nat.succ_pos k)).mpr (Nat.lt_of_not_le small)
    omega

theorem digitCount_eq {n k : Nat} (large : 10 ^ k ≤ n) (small : n < 10 ^ (k + 1)) :
    digitCount n = k + 1 := by
  apply Nat.le_antisymm
  · exact (digitCount_le_iff (Nat.succ_pos k)).mpr small
  · by_contra fewer
    have bound : digitCount n ≤ k := by omega
    have some : 0 < k := Nat.lt_of_lt_of_le (digitCount_pos n) bound
    have less := (digitCount_le_iff some).mp bound
    omega

theorem digitCount_shift {n : Nat} (positive : 0 < n) (k : Nat) :
    digitCount (n * 10 ^ k) = digitCount n + k := by
  obtain ⟨count, same⟩ : ∃ count, digitCount n = count + 1 :=
    ⟨digitCount n - 1, by have := digitCount_pos n; omega⟩
  have large : 10 ^ count ≤ n := pow_le_of_lt_digitCount positive (by omega)
  have small : n < 10 ^ (count + 1) := by
    rw [← same]
    exact lt_pow_digitCount n
  rw [same]
  have total : count + 1 + k = count + k + 1 := by omega
  rw [total]
  apply digitCount_eq
  · rw [Nat.pow_add]
    exact Nat.mul_le_mul_right _ large
  · rw [← total, Nat.pow_add]
    exact Nat.mul_lt_mul_of_pos_right small (Nat.pow_pos (by decide))

end Binary64

namespace Magnitude

theorem roundedQuotient_scale (numerator denominator : Nat) {factor : Nat} (positive : 0 < factor) :
    roundedQuotient (numerator * factor) (denominator * factor) =
      roundedQuotient numerator denominator := by
  have quotient : numerator * factor / (denominator * factor) = numerator / denominator :=
    Nat.mul_div_mul_right _ _ positive
  have rest : numerator * factor % (denominator * factor) = numerator % denominator * factor :=
    Nat.mul_mod_mul_right _ _ _
  have twice : 2 * (numerator % denominator * factor) = 2 * (numerator % denominator) * factor := by
    ring
  unfold roundedQuotient
  dsimp only
  rw [quotient, rest, twice]
  simp only [Nat.mul_lt_mul_right positive, Nat.mul_left_inj (Nat.ne_of_gt positive)]

/-- Rounding looks at the quotient only. -/
theorem ofRatio?_scale (numerator denominator : Nat) {factor : Nat} (positive : 0 < factor) :
    ofRatio? (numerator * factor) (denominator * factor) = ofRatio? numerator denominator := by
  have scaled : numerator * factor * unit = numerator * unit * factor :=
    Nat.mul_right_comm _ _ _
  have quotient : numerator * unit * factor / (denominator * factor) =
      numerator * unit / denominator := Nat.mul_div_mul_right _ _ positive
  have power (exponent : Nat) : denominator * factor * 2 ^ exponent =
      denominator * 2 ^ exponent * factor := Nat.mul_right_comm _ _ _
  unfold ofRatio?
  dsimp only
  rw [scaled, quotient, power, roundedQuotient_scale _ _ positive]

theorem ofRatio?_eq {numerator denominator numerator' denominator' : Nat}
    (positive : 0 < denominator) (positive' : 0 < denominator')
    (same : numerator * denominator' = numerator' * denominator) :
    ofRatio? numerator denominator = ofRatio? numerator' denominator' := by
  rw [← ofRatio?_scale numerator denominator positive', same, Nat.mul_comm denominator,
    ofRatio?_scale numerator' denominator' positive]

end Magnitude

namespace Binary64

open Magnitude

theorem ofDecimal_inside (negative : Bool) {digits : Nat} {exponent : Int} (nonzero : digits ≠ 0)
    (low : ¬ (digitCount digits + exponent < -330)) (high : ¬ (330 < digitCount digits + exponent)) :
    ofDecimal negative digits exponent =
      ofRounded negative (ofRatio? (digits * 10 ^ exponent.toNat) (10 ^ (-exponent).toNat)) := by
  unfold ofDecimal
  rw [if_neg (not_or.mpr ⟨nonzero, low⟩), if_neg high]

theorem ofDecimal_places {digits places : Nat} (positive : 0 < digits)
    (low : places ≤ digitCount digits + 330) (high : digitCount digits ≤ 330 + places) :
    ofDecimal false digits (-places) = ofRounded false (ofRatio? digits (10 ^ places)) := by
  have up : (-(places : Int)).toNat = 0 := by omega
  have down : (- -(places : Int)).toNat = places := by omega
  rw [ofDecimal_inside false positive.ne' (by omega) (by omega), up, down, Nat.pow_zero, Nat.mul_one]

theorem ofDecimal_shift (negative : Bool) (digits k : Nat) (exponent : Int) :
    ofDecimal negative (digits * 10 ^ k) exponent = ofDecimal negative digits (exponent + k) := by
  by_cases zero : digits = 0
  · subst zero
    simp [ofDecimal]
  have positive : 0 < digits := Nat.pos_of_ne_zero zero
  have nonzero : digits * 10 ^ k ≠ 0 :=
    Nat.mul_ne_zero zero (Nat.pow_pos (by decide)).ne'
  have size : (digitCount (digits * 10 ^ k) : Int) + exponent =
      digitCount digits + (exponent + k) := by
    rw [digitCount_shift positive]
    push_cast
    ring
  by_cases low : digitCount digits + (exponent + k) < -330
  · unfold ofDecimal
    rw [size, if_pos (.inr low), if_pos (.inr low)]
  by_cases high : 330 < digitCount digits + (exponent + k)
  · unfold ofDecimal
    rw [size, if_neg (not_or.mpr ⟨nonzero, low⟩), if_pos high, if_neg (not_or.mpr ⟨zero, low⟩),
      if_pos high]
  rw [ofDecimal_inside negative nonzero (by rwa [size]) (by rwa [size]),
    ofDecimal_inside negative zero low high]
  have same : digits * 10 ^ k * 10 ^ exponent.toNat * 10 ^ (-(exponent + k)).toNat =
      digits * 10 ^ (exponent + k).toNat * 10 ^ (-exponent).toNat := by
    rw [Nat.mul_assoc, Nat.mul_assoc, Nat.mul_assoc, ← Nat.pow_add, ← Nat.pow_add, ← Nat.pow_add]
    congr 2
    omega
  rw [ofRatio?_eq (Nat.pow_pos (by decide)) (Nat.pow_pos (by decide)) same]

theorem ofDecimal_sign {digits : Nat} {exponent : Int} {x : Magnitude}
    (positive : ofDecimal false digits exponent = .finite false x) (negative : Bool) :
    ofDecimal negative digits exponent = .finite negative x := by
  by_cases small : digits = 0 ∨ digitCount digits + exponent < -330
  · unfold ofDecimal at positive ⊢
    rw [if_pos small] at positive ⊢
    cases positive
    rfl
  by_cases large : 330 < digitCount digits + exponent
  · unfold ofDecimal at positive
    rw [if_neg small, if_pos large] at positive
    cases positive
  obtain ⟨nonzero, low⟩ := not_or.mp small
  rw [ofDecimal_inside _ nonzero low large] at positive ⊢
  cases rounded : ofRatio? (digits * 10 ^ exponent.toNat) (10 ^ (-exponent).toNat) with
  | none =>
    rw [rounded] at positive
    cases positive
  | some magnitude =>
    rw [rounded] at positive
    cases positive
    rfl

end Binary64

end ChatWidget
