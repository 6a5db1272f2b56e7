import Mathlib.Algebra.Group.Nat.Defs
import Stencil.Number.Double
import Stencil.Proofs.Number.Rounding

/-!
# Magnitudes of doubles

The magnitude of a rank is a number of steps, and the step is doubled often enough for 53 binary
digits to do.  Magnitudes grow with their ranks, and the rank that is nearest to a quotient belongs
to the quotient rounded to a whole number of its steps.
-/

namespace Stencil
namespace Double

theorem stepCount_eq : stepCount = 2 ^ 52 := rfl

theorem unitsPerOne_pos : 0 < unitsPerOne := by
  unfold unitsPerOne
  generalize 1074 = exponent
  exact Nat.two_pow_pos exponent

/-- Whether a magnitude of so many steps needs a step that is doubled so often.  The steps have no
more digits than there is room for, and they take all of the room once the step is doubled. -/
structure IsSignificand (doublings steps : Nat) : Prop where
  /-- Unless the step is the smallest one, there are no fewer steps than from one power of two to
  the next. -/
  full : doublings = 0 ∨ stepCount ≤ steps
  /-- There are at most as many steps as up to the next power of two. -/
  fits : steps ≤ 2 * stepCount

/-- The magnitude of a rank that is given by a number of steps. -/
theorem IsSignificand.units_eq
    {doublings steps : Nat}
    (significand : IsSignificand doublings steps) :
    units (doublings * stepCount + steps) = steps * 2 ^ doublings := by
  have positive : 0 < stepCount := Nat.two_pow_pos 52
  obtain ⟨full, fits⟩ := significand
  by_cases small : steps < stepCount
  · obtain rfl := full.resolve_right (by omega)
    rw [Nat.zero_mul, Nat.zero_add, units, if_pos small, Nat.pow_zero, Nat.mul_one]
  · have notSmall : ¬ doublings * stepCount + steps < stepCount := by omega
    obtain ⟨fraction, rfl⟩ := Nat.exists_eq_add_of_le (Nat.le_of_not_lt small)
    have regroup : doublings * stepCount + (stepCount + fraction) =
        stepCount * (doublings + 1) + fraction := by
      rw [Nat.mul_comm, Nat.mul_add_one, Nat.add_assoc]
    rw [units, if_neg notSmall, regroup, Nat.mul_add_mod, Nat.mul_add_div positive]
    by_cases next : fraction = stepCount
    · -- The last step of a power of two is the first one of the next.
      rw [next, Nat.mod_self, Nat.div_self positive, Nat.add_zero, Nat.add_sub_cancel]
      change stepCount * 2 ^ (doublings + 1) = _
      rw [Nat.pow_succ', ← Nat.mul_assoc, Nat.mul_two]
    · have inside : fraction < stepCount := by omega
      rw [Nat.mod_eq_of_lt inside, Nat.div_eq_of_lt inside, Nat.add_zero, Nat.add_sub_cancel]
      rfl

/-- Every rank is given by a number of steps short of the next power of two. -/
theorem exists_isSignificand (rank : Nat) :
    ∃ doublings steps, IsSignificand doublings steps ∧ steps < 2 * stepCount ∧
      rank = doublings * stepCount + steps := by
  have positive : 0 < stepCount := Nat.two_pow_pos 52
  have split := Nat.div_add_mod' rank stepCount
  have short := Nat.mod_lt rank positive
  cases powers : rank / stepCount with
  | zero =>
    rw [powers, Nat.zero_mul] at split
    exact ⟨0, rank, ⟨.inl rfl, by omega⟩, by omega, by omega⟩
  | succ doublings =>
    rw [powers, Nat.add_one_mul] at split
    refine ⟨doublings, stepCount + rank % stepCount, ⟨.inr ?_, ?_⟩, ?_, ?_⟩
    all_goals omega

theorem units_lt_units_succ (rank : Nat) : units rank < units (rank + 1) := by
  obtain ⟨doublings, steps, significand, short, rfl⟩ := exists_isSignificand rank
  have next : IsSignificand doublings (steps + 1) :=
    ⟨significand.full.imp_right Nat.le_succ_of_le, short⟩
  rw [Nat.add_assoc, significand.units_eq, next.units_eq]
  exact Nat.mul_lt_mul_of_pos_right (Nat.lt_succ_self steps) (Nat.two_pow_pos doublings)

/-- Magnitudes grow with their ranks. -/
theorem units_lt_units
    {rank other : Nat}
    (less : rank < other) : units rank < units other := by
  induction other with
  | zero => exact absurd less (Nat.not_lt_zero rank)
  | succ other inductionHypothesis =>
    rcases Nat.lt_or_eq_of_le (Nat.le_of_lt_succ less) with before | rfl
    · exact Nat.lt_trans (inductionHypothesis before) (units_lt_units_succ other)
    · exact units_lt_units_succ rank

theorem units_lt_units_iff {rank other : Nat} : units rank < units other ↔ rank < other := by
  refine ⟨fun less => ?_, units_lt_units⟩
  rcases Nat.lt_trichotomy rank other with before | rfl | behind
  · exact before
  · exact absurd less (Nat.lt_irrefl _)
  · exact absurd (Nat.lt_trans less (units_lt_units behind)) (Nat.lt_irrefl _)

theorem units_zero : units 0 = 0 := rfl

/-- The first magnitude beyond the finite ones. -/
theorem units_rankCount : units rankCount = stepCount * 2 ^ 2046 := by
  have significand : IsSignificand 2046 stepCount := ⟨.inr (Nat.le_refl _), by omega⟩
  have split : rankCount = 2046 * stepCount + stepCount := Nat.add_one_mul 2046 stepCount
  rw [split, significand.units_eq]

section Nearest

variable (numerator : Nat) {denominator : Nat} (positive : 0 < denominator)

/-- How often the step is doubled for a quotient. -/
def doublings (numerator denominator : Nat) : Nat := (numerator / denominator).log2 - 52

include positive

/-- Unless the step is the smallest one, a quotient reaches as far as the steps from one power of
two to the next. -/
theorem doublings_eq_zero_or_le :
    doublings numerator denominator = 0 ∨
      stepCount * (denominator * 2 ^ doublings numerator denominator) ≤ numerator := by
  by_cases smallest : doublings numerator denominator = 0
  · exact .inl smallest
  · refine .inr ?_
    have large : numerator / denominator ≠ 0 := by
      intro zero
      apply smallest
      rw [doublings, zero, Nat.log2_zero]
    have exponent : (numerator / denominator).log2 = 52 + doublings numerator denominator := by
      unfold doublings at smallest ⊢
      omega
    have enough := Nat.log2_self_le large
    rwa [exponent, Nat.le_div_iff_mul_le positive, Nat.pow_add, Nat.mul_assoc,
      Nat.mul_comm _ denominator] at enough

/-- A quotient has as many steps as there is room for. -/
theorem isSignificand_roundToEven :
    let doublings := doublings numerator denominator
    IsSignificand doublings (roundToEven numerator (denominator * 2 ^ doublings)) := by
  intro doublings
  have stepPositive : 0 < denominator * 2 ^ doublings :=
    Nat.mul_pos positive (Nat.two_pow_pos doublings)
  have whole (steps : Nat) := roundToEven_mul_self stepPositive steps
  constructor
  · refine (doublings_eq_zero_or_le numerator positive).imp_right fun enough => ?_
    rw [← whole stepCount]
    exact roundToEven_mono stepPositive enough
  · have exponent : (numerator / denominator).log2 + 1 ≤ 53 + doublings := by
      have : doublings = (numerator / denominator).log2 - 52 := rfl
      omega
    have bounded : numerator / denominator < 2 ^ (53 + doublings) :=
      Nat.lt_of_lt_of_le Nat.lt_log2_self (Nat.pow_le_pow_right (by decide) exponent)
    rw [Nat.div_lt_iff_lt_mul positive, Nat.pow_add, Nat.mul_assoc,
      Nat.mul_comm _ denominator] at bounded
    rw [stepCount_eq, ← Nat.pow_succ', ← whole (2 ^ 53)]
    exact roundToEven_mono stepPositive (Nat.le_of_lt bounded)

omit positive in
theorem nearestRank_eq :
    nearestRank numerator denominator =
      doublings numerator denominator * stepCount +
        roundToEven numerator (denominator * 2 ^ doublings numerator denominator) := rfl

/-- The nearest magnitude is the quotient rounded to a whole number of steps. -/
theorem units_nearestRank :
    units (nearestRank numerator denominator) =
      roundToEven numerator (denominator * 2 ^ doublings numerator denominator) *
        2 ^ doublings numerator denominator :=
  (isSignificand_roundToEven numerator positive).units_eq

omit positive in
theorem doublings_mono
    {larger : Nat}
    (grows : numerator ≤ larger) :
    doublings numerator denominator ≤ doublings larger denominator := by
  have order := Nat.div_le_div_right (c := denominator) grows
  apply Nat.sub_le_sub_right
  by_cases zero : numerator / denominator = 0
  · rw [zero, Nat.log2_zero]
    exact Nat.zero_le _
  · have larger := Nat.lt_of_lt_of_le (Nat.pos_of_ne_zero zero) order
    rw [Nat.le_log2 (Nat.ne_of_gt larger)]
    exact Nat.le_trans (Nat.log2_self_le zero) order

/-- A larger quotient has no smaller rank. -/
theorem nearestRank_mono
    {larger : Nat}
    (grows : numerator ≤ larger) :
    nearestRank numerator denominator ≤ nearestRank larger denominator := by
  have fits := (isSignificand_roundToEven numerator positive).fits
  have full := (isSignificand_roundToEven larger positive).full
  rw [nearestRank_eq, nearestRank_eq]
  rcases Nat.eq_or_lt_of_le (doublings_mono numerator grows) with same | less
  · rw [same]
    apply Nat.add_le_add_left
    exact roundToEven_mono (Nat.mul_pos positive (Nat.two_pow_pos _)) grows
  · have apart := Nat.mul_le_mul_right stepCount less
    rw [Nat.succ_mul] at apart
    omega

end Nearest

end Double
end Stencil
