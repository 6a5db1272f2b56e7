import Mathlib.Algebra.Order.Field.Power
import Mathlib.Tactic.NormNum
import Mathlib.Tactic.Positivity
import Stencil.Proofs.Number.Nearest

/-!
# Rounding decimals

A whole number under a power of ten is rounded to the nearest magnitude.  The number of its digits
is enough to tell that it is far below the smallest magnitude or far beyond the largest one, and
then the power is not computed.
-/

namespace Stencil
namespace Double

/-- Whether a number under a sign is rounded to a double.  A number that is nearest to a magnitude
beyond the finite ones is rounded to an infinity. -/
def IsRounded (negative : Bool) (number : ℚ) (rounded : Double) : Prop :=
  ∃ rank, IsNearest number rank ∧ rounded = ofRank negative rank

/-- A number is rounded to one double only. -/
theorem IsRounded.unique
    {negative : Bool}
    {number : ℚ}
    {rounded other : Double}
    (rounds : IsRounded negative number rounded)
    (otherRounds : IsRounded negative number other) : rounded = other := by
  obtain ⟨rank, nearest, rfl⟩ := rounds
  obtain ⟨otherRank, otherNearest, rfl⟩ := otherRounds
  rw [nearest.unique otherNearest]

theorem isRounded_ofQuotient
    (negative : Bool)
    (numerator : Nat)
    {denominator : Nat}
    (positive : 0 < denominator) :
    IsRounded negative (numerator / denominator) (ofQuotient negative numerator denominator) := by
  have nearest := isNearest_nearestRank (numerator * unitsPerOne) positive
  rw [Nat.cast_mul, div_right_comm,
    mul_div_cancel_right₀ _ (ne_of_gt unitsPerOne_cast_pos)] at nearest
  exact ⟨_, nearest, rfl⟩

section Digits

variable {value : Nat} (exponent : Int)

theorem lt_pow_decimalLength (value : Nat) : value < 10 ^ decimalLength value :=
  (Nat.length_toDigits_le_iff (by decide) Nat.length_toDigits_pos).mp (Nat.le_refl _)

theorem pow_le_of_ne_zero (nonzero : value ≠ 0) : 10 ^ (decimalLength value - 1) ≤ value := by
  by_cases single : decimalLength value - 1 = 0
  · rw [single]
    exact Nat.pos_of_ne_zero nonzero
  · refine Nat.le_of_not_lt fun small => ?_
    have shorter := (Nat.length_toDigits_le_iff (by decide) (Nat.pos_of_ne_zero single)).mpr small
    unfold decimalLength at shorter single
    omega

/-- A decimal is smaller than the power of ten that has a digit more. -/
theorem mul_pow_lt (value : Nat) :
    (value : ℚ) * 10 ^ exponent < 10 ^ (decimalLength value + exponent) := by
  have digits : (value : ℚ) < 10 ^ decimalLength value := by
    exact_mod_cast lt_pow_decimalLength value
  rw [zpow_add₀ (by norm_num), zpow_natCast]
  exact mul_lt_mul_of_pos_right digits (by positivity)

/-- A decimal is not smaller than the power of ten that has as many digits. -/
theorem pow_le_mul_pow (nonzero : value ≠ 0) :
    (10 : ℚ) ^ (decimalLength value + exponent - 1) ≤ value * 10 ^ exponent := by
  have digits : (10 : ℚ) ^ (decimalLength value - 1) ≤ value := by
    exact_mod_cast pow_le_of_ne_zero nonzero
  have positive : 0 < decimalLength value := Nat.length_toDigits_pos
  have regroup : (decimalLength value : Int) + exponent - 1 =
      (decimalLength value - 1 : Nat) + exponent := by omega
  rw [regroup, zpow_add₀ (by norm_num), zpow_natCast]
  exact mul_le_mul_of_nonneg_right digits (by positivity)

theorem mul_pow_of_neg (negative : exponent < 0) :
    (value : ℚ) * 10 ^ exponent = value / (Nat.pow 10 exponent.natAbs : Nat) := by
  have opposite : exponent = -(exponent.natAbs : Int) := by omega
  rw [Nat.pow_eq, Nat.cast_pow, div_eq_mul_inv, ← zpow_natCast, ← zpow_neg, ← opposite]
  rfl

theorem mul_pow_of_nonneg (nonnegative : 0 ≤ exponent) :
    (value : ℚ) * 10 ^ exponent = (value * Nat.pow 10 exponent.natAbs : Nat) / (1 : Nat) := by
  have same : (exponent.natAbs : Int) = exponent := by omega
  rw [Nat.cast_one, div_one, Nat.cast_mul, Nat.pow_eq, Nat.cast_pow, ← zpow_natCast, same]
  rfl

end Digits

/-- A number is rounded to zero when it has more zeros behind the point than the smallest unit. -/
theorem isNearest_zero
    {places : Nat}
    (enough : 2 * unitsPerOne ≤ 10 ^ places)
    {number : ℚ}
    (small : number < 10 ^ (-(places : Int))) : IsNearest number 0 := by
  have smallest : 2 * 10 ^ (-(places : Int)) ≤ magnitude 1 := by
    rw [magnitude, show units 1 = 1 from rfl, zpow_neg, ← div_eq_mul_inv, zpow_natCast,
      div_le_div_iff₀ (by positivity) unitsPerOne_cast_pos]
    exact_mod_cast Nat.le_trans enough (Nat.le_of_eq (Nat.one_mul _).symm)
  refine isNearest_of_middles (fun other less => ?_) fun other less => absurd less (by omega)
  have order := magnitude_le_magnitude_iff.mpr less
  rw [magnitude_zero, zero_add]
  exact ⟨by linarith, fun _ => rfl⟩

/-- A number is rounded to an infinity when it has more digits than all finite magnitudes. -/
theorem isRounded_infinite
    (negative : Bool)
    {digits : Nat}
    (enough : units rankCount ≤ 10 ^ digits * unitsPerOne)
    {number : ℚ}
    (large : 10 ^ digits ≤ number) : IsRounded negative number (infinite negative) := by
  have beyond : magnitude rankCount ≤ 10 ^ digits := by
    rw [magnitude, div_le_iff₀ unitsPerOne_cast_pos]
    exact_mod_cast enough
  have nonnegative : 0 ≤ number := le_trans (by positivity) large
  obtain ⟨rank, nearest⟩ := exists_isNearest nonnegative
  have outside := nearest.le_of_magnitude_le (le_trans beyond large)
  refine ⟨rank, nearest, ?_⟩
  rw [ofRank, dif_neg (Nat.not_lt_of_le outside)]

/-- Decimals are rounded to the nearest magnitude. -/
theorem isRounded_ofDecimal (negative : Bool) (significand : Nat) (exponent : Int) :
    IsRounded negative (significand * 10 ^ exponent)
      (ofDecimal negative significand exponent) := by
  have ten : (1 : ℚ) ≤ 10 := by norm_num
  rw [ofDecimal]
  split
  case isTrue tiny =>
    have enough : 2 * unitsPerOne ≤ 10 ^ 331 := by decide +kernel
    refine ⟨0, isNearest_zero enough ?_, rfl⟩
    rw [Bool.or_eq_true, decide_eq_true_iff, decide_eq_true_iff] at tiny
    rcases tiny with zero | short
    · rw [zero, Nat.cast_zero, zero_mul]
      positivity
    · exact lt_of_lt_of_le (mul_pow_lt exponent significand)
        (zpow_le_zpow_right₀ ten (by omega))
  case isFalse notTiny =>
    rw [Bool.or_eq_true, not_or, decide_eq_true_iff] at notTiny
    split
    case isTrue huge =>
      have enough : units rankCount ≤ 10 ^ 320 * unitsPerOne := by
        rw [units_rankCount]
        decide +kernel
      refine isRounded_infinite negative enough ?_
      rw [← zpow_natCast]
      exact le_trans (zpow_le_zpow_right₀ ten (by omega)) (pow_le_mul_pow exponent notTiny.1)
    case isFalse notHuge =>
      split
      case isTrue below =>
        rw [mul_pow_of_neg exponent below]
        exact isRounded_ofQuotient negative significand (Nat.pow_pos (by decide))
      case isFalse notBelow =>
        rw [mul_pow_of_nonneg exponent (Int.not_lt.mp notBelow)]
        exact isRounded_ofQuotient negative _ Nat.one_pos

end Double
end Stencil
