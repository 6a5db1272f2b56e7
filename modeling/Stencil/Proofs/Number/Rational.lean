import Mathlib.Algebra.Order.Field.Basic
import Mathlib.Algebra.Order.Field.Rat
import Mathlib.Data.Rat.Cast.Order
import Mathlib.Tactic.NormNum
import Stencil.Proofs.Number.Magnitude

/-!
# The numbers that doubles stand for

A magnitude is a whole number of units, and so a rational number; a finite double is such a number
under a sign.  Whether a double is whole, and what is left of it without its places, can then be
said without units.
-/

namespace Stencil

namespace Double

/-- The number that the magnitude of a rank is. -/
def magnitude (rank : Nat) : ℚ := units rank / unitsPerOne

theorem unitsPerOne_cast_pos : (0 : ℚ) < unitsPerOne := Nat.cast_pos.mpr unitsPerOne_pos

theorem magnitude_zero : magnitude 0 = 0 := by
  rw [magnitude, units_zero, Nat.cast_zero, zero_div]

theorem magnitude_lt_magnitude_iff {rank other : Nat} :
    magnitude rank < magnitude other ↔ rank < other := by
  rw [magnitude, magnitude, div_lt_div_iff_of_pos_right unitsPerOne_cast_pos, Nat.cast_lt,
    units_lt_units_iff]

theorem magnitude_le_magnitude_iff {rank other : Nat} :
    magnitude rank ≤ magnitude other ↔ rank ≤ other := by
  rw [← not_lt, magnitude_lt_magnitude_iff, not_lt]

end Double

namespace Finite

/-- The number that a finite double stands for. -/
def toRat (value : Finite) : ℚ := value.signedUnits / Double.unitsPerOne

variable {value : Finite}

theorem natAbs_signedUnits (value : Finite) : value.signedUnits.natAbs = value.units := by
  unfold signedUnits
  split <;> omega

/-- Without its sign a finite double is the magnitude of its rank. -/
theorem abs_toRat (value : Finite) : |value.toRat| = Double.magnitude value.rank := by
  rw [toRat, abs_div, abs_of_pos Double.unitsPerOne_cast_pos, ← Int.cast_abs,
    Int.abs_eq_natAbs, natAbs_signedUnits, Int.cast_natCast]
  rfl

theorem toRat_eq_intCast_iff {whole : Int} :
    value.toRat = whole ↔ value.signedUnits = whole * Double.unitsPerOne := by
  rw [toRat, div_eq_iff (ne_of_gt Double.unitsPerOne_cast_pos)]
  exact_mod_cast Iff.rfl

theorem isWhole_iff : value.isWhole ↔ ∃ whole : Int, value.toRat = whole := by
  have units := natAbs_signedUnits value
  rw [isWhole, decide_eq_true_iff, ← Nat.dvd_iff_mod_eq_zero, ← units, ← Int.natCast_dvd]
  simp only [toRat_eq_intCast_iff, Int.mul_comm _ (Double.unitsPerOne : Int)]
  rfl

/-- A whole number loses nothing when its places are cut off. -/
theorem toRat_eq_truncate (whole : value.isWhole) : value.toRat = value.truncate := by
  rw [isWhole, decide_eq_true_iff] at whole
  have exact := Nat.div_add_mod' value.units Double.unitsPerOne
  rw [toRat_eq_intCast_iff, truncate, signedUnits]
  rw [whole, Nat.add_zero] at exact
  split
  · rw [Int.neg_mul, ← Int.natCast_mul, exact]
  · rw [← Int.natCast_mul, exact]

/-- A number is taken for an integer when it is one and is smaller than the limit. -/
theorem isIntegral_iff :
    value.isIntegral ↔ (∃ whole : Int, value.toRat = whole) ∧ |value.toRat| < 10 ^ 15 := by
  have limit : (Double.wholeLimit : ℚ) = 10 ^ 15 := by norm_num [Double.wholeLimit]
  have small : value.units < Double.wholeLimit * Double.unitsPerOne ↔
      |value.toRat| < 10 ^ 15 := by
    rw [abs_toRat, Double.magnitude, div_lt_iff₀ Double.unitsPerOne_cast_pos, ← limit]
    exact_mod_cast Iff.rfl
  rw [isIntegral, Bool.and_eq_true, decide_eq_true_iff, isWhole_iff, small]

end Finite

end Stencil
