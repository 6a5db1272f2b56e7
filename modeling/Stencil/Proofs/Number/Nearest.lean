import Mathlib.Tactic.Linarith
import Stencil.Proofs.Number.Rational

/-!
# The double nearest to a number

A number is rounded to the magnitude at the smallest distance, and to the one of even rank when two
are equally near.  Every number has exactly one such magnitude.  For a quotient it is found by
rounding to a whole number of the steps of its power of two: the magnitudes beyond this power of two
are farther away.
-/

namespace Stencil
namespace Double

/-- Whether a number is rounded to the magnitude of a rank.  The ranks beyond the finite ones count
like all others. -/
structure IsNearest (number : ℚ) (rank : Nat) : Prop where
  /-- No magnitude is nearer. -/
  nearest : ∀ other, |number - magnitude rank| ≤ |number - magnitude other|
  /-- Of two magnitudes that are equally near, the one of even rank counts. -/
  even : ∀ other, other ≠ rank → |number - magnitude rank| = |number - magnitude other| →
    rank % 2 = 0

section Distance

variable {number left right : ℚ} (order : left < right)

include order

/-- The nearer one of two numbers is on the same side of their middle. -/
theorem abs_sub_left_le_iff :
    |number - left| ≤ |number - right| ↔ 2 * number ≤ left + right := by
  constructor
  · intro nearer
    by_contra beyond
    have positive : 0 < number - left := by linarith
    rw [abs_of_pos positive] at nearer
    exact absurd nearer (not_le.mpr (abs_lt.mpr ⟨by linarith, by linarith⟩))
  · intro before
    have negative : number - right < 0 := by linarith
    rw [abs_of_neg negative]
    exact abs_le.mpr ⟨by linarith, by linarith⟩

theorem abs_sub_right_le_iff :
    |number - right| ≤ |number - left| ↔ left + right ≤ 2 * number := by
  have mirrored := @abs_sub_left_le_iff (-number) (-right) (-left) (neg_lt_neg order)
  rw [← neg_sub', abs_neg, ← neg_sub', abs_neg] at mirrored
  rw [mirrored]
  constructor <;> intro _ <;> linarith

end Distance

/-- A rank is the nearest one when the number is not beyond the middle to any other magnitude, and
lies in such a middle only if the rank is even. -/
theorem isNearest_of_middles
    {number : ℚ}
    {rank : Nat}
    (above : ∀ other, rank < other → 2 * number ≤ magnitude rank + magnitude other ∧
      (2 * number = magnitude rank + magnitude other → rank % 2 = 0))
    (below : ∀ other, other < rank → magnitude other + magnitude rank ≤ 2 * number ∧
      (2 * number = magnitude other + magnitude rank → rank % 2 = 0)) :
    IsNearest number rank := by
  constructor
  · intro other
    rcases Nat.lt_trichotomy rank other with less | rfl | greater
    · exact (abs_sub_left_le_iff (magnitude_lt_magnitude_iff.mpr less)).mpr (above other less).1
    · exact le_refl _
    · exact (abs_sub_right_le_iff (magnitude_lt_magnitude_iff.mpr greater)).mpr
        (below other greater).1
  · intro other different same
    rcases Nat.lt_or_gt_of_ne different with less | greater
    · have order := magnitude_lt_magnitude_iff.mpr less
      have reached := (abs_sub_left_le_iff order).mp (le_of_eq same.symm)
      exact (below other less).2 (le_antisymm reached (below other less).1)
    · have order := magnitude_lt_magnitude_iff.mpr greater
      have reached := (abs_sub_right_le_iff order).mp (le_of_eq same.symm)
      exact (above other greater).2 (le_antisymm (above other greater).1 reached)

namespace IsNearest

variable {number : ℚ} {rank other : Nat}

theorem two_mul_le
    (nearest : IsNearest number rank)
    (less : rank < other) : 2 * number ≤ magnitude rank + magnitude other :=
  (abs_sub_left_le_iff (magnitude_lt_magnitude_iff.mpr less)).mp (nearest.nearest other)

theorem le_two_mul
    (nearest : IsNearest number rank)
    (greater : other < rank) : magnitude other + magnitude rank ≤ 2 * number :=
  (abs_sub_right_le_iff (magnitude_lt_magnitude_iff.mpr greater)).mp (nearest.nearest other)

/-- Of two ranks that are both the nearest, none is greater. -/
theorem not_lt
    (nearest : IsNearest number rank)
    (otherNearest : IsNearest number other) : ¬ rank < other := by
  intro less
  have same := le_antisymm (nearest.nearest other) (otherNearest.nearest rank)
  have even := nearest.even other (Nat.ne_of_gt less) same
  have otherEven := otherNearest.even rank (Nat.ne_of_lt less) same.symm
  -- The magnitude of the odd rank between them would be nearer.
  have between : rank + 1 < other := by omega
  have before := nearest.two_mul_le (Nat.lt_succ_self rank)
  have behind := otherNearest.le_two_mul less
  have closer := magnitude_lt_magnitude_iff.mpr between
  linarith

/-- A number is rounded to one magnitude only. -/
theorem unique
    (nearest : IsNearest number rank)
    (otherNearest : IsNearest number other) : rank = other :=
  Nat.le_antisymm (Nat.le_of_not_lt (otherNearest.not_lt nearest))
    (Nat.le_of_not_lt (nearest.not_lt otherNearest))

/-- A number is not rounded to a magnitude below one that it reaches. -/
theorem le_of_magnitude_le
    (nearest : IsNearest number rank)
    (reaches : magnitude other ≤ number) : other ≤ rank := by
  by_contra less
  have order := Nat.lt_of_not_le less
  have middle := nearest.two_mul_le order
  have apart := magnitude_lt_magnitude_iff.mpr order
  linarith

end IsNearest

/-- Behind a number of steps the next magnitude is at least one step away. -/
theorem IsSignificand.add_step_le_units
    {doublings steps rank : Nat}
    (significand : IsSignificand doublings steps)
    (behind : doublings * stepCount + steps < rank) :
    (steps + 1) * 2 ^ doublings ≤ units rank := by
  have next : (steps + 1) * 2 ^ doublings ≤ units (doublings * stepCount + steps + 1) := by
    by_cases room : steps < 2 * stepCount
    · have following : IsSignificand doublings (steps + 1) :=
        ⟨significand.full.imp_right Nat.le_succ_of_le, room⟩
      rw [Nat.add_assoc, following.units_eq]
    · -- Without room for another step, the next one is the first step that is doubled once more.
      have full : steps = 2 * stepCount := Nat.le_antisymm significand.fits (Nat.le_of_not_lt room)
      have following : IsSignificand (doublings + 1) (stepCount + 1) :=
        ⟨.inr (Nat.le_succ _), by rw [stepCount_eq]; omega⟩
      have regroup : doublings * stepCount + steps + 1 =
          (doublings + 1) * stepCount + (stepCount + 1) := by
        rw [full, Nat.add_one_mul doublings]
        omega
      rw [regroup, following.units_eq, full, Nat.pow_succ', ← Nat.mul_assoc]
      exact Nat.mul_le_mul_right _ (by omega)
  exact Nat.le_trans next (Nat.le_of_not_lt fun less =>
    absurd (units_lt_units_iff.mp less) (Nat.not_lt_of_le behind))

/-- Before a number of steps the next magnitude is at least one step away, unless the steps begin a
power of two. -/
theorem IsSignificand.units_add_step_le
    {doublings steps rank : Nat}
    (significand : IsSignificand doublings steps)
    (inside : doublings = 0 ∨ stepCount < steps)
    (before : rank < doublings * stepCount + steps) :
    units rank + 2 ^ doublings ≤ steps * 2 ^ doublings := by
  have positive : 0 < steps := by
    rcases inside with smallest | inside
    · rw [smallest, Nat.zero_mul] at before
      omega
    · omega
  obtain ⟨previous, rfl⟩ := Nat.exists_eq_add_one_of_ne_zero (Nat.ne_of_gt positive)
  have preceding : IsSignificand doublings previous :=
    ⟨inside.imp_right Nat.le_of_lt_succ, Nat.le_of_succ_le significand.fits⟩
  have order : units rank ≤ units (doublings * stepCount + previous) :=
    Nat.le_of_not_lt fun less => absurd (units_lt_units_iff.mp less) (by omega)
  rw [preceding.units_eq] at order
  rw [Nat.add_one_mul]
  omega

section Quotient

variable (numerator : Nat) {denominator : Nat} (positive : 0 < denominator)

theorem nearestRank_mod_two :
    nearestRank numerator denominator % 2 =
      roundToEven numerator (denominator * 2 ^ doublings numerator denominator) % 2 := by
  have even : doublings numerator denominator * stepCount % 2 = 0 := by
    rw [Nat.mul_mod, show stepCount % 2 = 0 from rfl, Nat.mul_zero, Nat.zero_mod]
  rw [nearestRank_eq]
  omega

include positive

omit positive in
theorem mul_step_regroup (steps : Nat) :
    steps * 2 ^ doublings numerator denominator * denominator =
      steps * (denominator * 2 ^ doublings numerator denominator) := by
  rw [Nat.mul_assoc, Nat.mul_comm denominator]

/-- A quotient is not beyond the middle to any larger magnitude. -/
theorem le_middle_of_nearestRank_lt
    {other : Nat}
    (less : nearestRank numerator denominator < other) :
    let middle := (units (nearestRank numerator denominator) + units other) * denominator
    2 * numerator ≤ middle ∧
      (2 * numerator = middle → nearestRank numerator denominator % 2 = 0) := by
  have stepPositive := Nat.mul_pos positive (Nat.two_pow_pos (doublings numerator denominator))
  have rounding := isRounding_roundToEven stepPositive numerator
  have significand := isSignificand_roundToEven numerator positive
  have away := Nat.mul_le_mul_right denominator (significand.add_step_le_units less)
  rw [nearestRank_mod_two, units_nearestRank numerator positive, Nat.add_mul, mul_step_regroup]
  rw [mul_step_regroup, Nat.add_one_mul] at away
  have above := rounding.above
  exact ⟨by omega, fun same => rounding.even (.inl (by omega))⟩

/-- A quotient is not before the middle to any smaller magnitude. -/
theorem middle_le_of_lt_nearestRank
    {other : Nat}
    (greater : other < nearestRank numerator denominator) :
    let middle := (units other + units (nearestRank numerator denominator)) * denominator
    middle ≤ 2 * numerator ∧
      (2 * numerator = middle → nearestRank numerator denominator % 2 = 0) := by
  have stepPositive := Nat.mul_pos positive (Nat.two_pow_pos (doublings numerator denominator))
  have rounding := isRounding_roundToEven stepPositive numerator
  have significand := isSignificand_roundToEven numerator positive
  have order := units_lt_units greater
  rw [nearestRank_mod_two, Nat.add_mul]
  rw [units_nearestRank numerator positive] at order ⊢
  by_cases inside : doublings numerator denominator = 0 ∨
      stepCount < roundToEven numerator (denominator * 2 ^ doublings numerator denominator)
  · have away := Nat.mul_le_mul_right denominator (significand.units_add_step_le inside greater)
    rw [Nat.add_mul, mul_step_regroup, Nat.mul_comm (2 ^ _)] at away
    rw [mul_step_regroup]
    have below := rounding.below
    exact ⟨by omega, fun same => rounding.even (.inr (by omega))⟩
  · -- The first steps of a power of two are only rounded to from above.
    have outside := not_or.mp inside
    have reached := (doublings_eq_zero_or_le numerator positive).resolve_left outside.1
    have first := Nat.le_antisymm (Nat.le_of_not_lt outside.2)
      (significand.full.resolve_left outside.1)
    have away := Nat.mul_lt_mul_of_pos_right order positive
    rw [first, mul_step_regroup] at away ⊢
    exact ⟨by omega, fun same => absurd same (by omega)⟩

/-- The rank of a quotient of units is the nearest one. -/
theorem isNearest_nearestRank :
    IsNearest (numerator / denominator / unitsPerOne) (nearestRank numerator denominator) := by
  have positiveCast : (0 : ℚ) < denominator := Nat.cast_pos.mpr positive
  have number : (2 : ℚ) * (numerator / denominator / unitsPerOne) =
      (2 * numerator : Nat) / denominator / unitsPerOne := by
    rw [Nat.cast_mul, Nat.cast_two, mul_div_assoc, mul_div_assoc]
  have middle (rank other : Nat) : magnitude rank + magnitude other =
      ((units rank + units other) * denominator : Nat) / denominator / unitsPerOne := by
    rw [Nat.cast_mul, mul_div_cancel_right₀ _ (ne_of_gt positiveCast), Nat.cast_add, add_div]
    rfl
  have order (left right : Nat) :
      (left : ℚ) / denominator / unitsPerOne ≤ right / denominator / unitsPerOne ↔
        left ≤ right := by
    rw [div_le_div_iff_of_pos_right unitsPerOne_cast_pos,
      div_le_div_iff_of_pos_right positiveCast, Nat.cast_le]
  have same (left right : Nat) :
      (left : ℚ) / denominator / unitsPerOne = right / denominator / unitsPerOne ↔
        left = right := by
    rw [div_left_inj' (ne_of_gt unitsPerOne_cast_pos), div_left_inj' (ne_of_gt positiveCast),
      Nat.cast_inj]
  refine isNearest_of_middles (fun other less => ?_) (fun other greater => ?_)
  · rw [number, middle, order, same]
    exact le_middle_of_nearestRank_lt numerator positive less
  · rw [number, middle, order, same]
    exact middle_le_of_lt_nearestRank numerator positive greater

end Quotient

/-- Every number that is not negative is rounded to some magnitude. -/
theorem exists_isNearest
    {number : ℚ}
    (nonnegative : 0 ≤ number) : ∃ rank, IsNearest number rank := by
  obtain ⟨count, same⟩ := Int.eq_ofNat_of_zero_le (Rat.num_nonneg.mpr nonnegative)
  have quotient : number = ((count * unitsPerOne : Nat) : ℚ) / number.den / unitsPerOne := by
    rw [Nat.cast_mul, div_right_comm, mul_div_cancel_right₀ _ (ne_of_gt unitsPerOne_cast_pos)]
    conv_lhs => rw [← Rat.num_div_den number, same]
    rfl
  rw [quotient]
  exact ⟨_, isNearest_nearestRank _ number.den_pos⟩

end Double
end Stencil
