import Stencil.Proofs.Number.Magnitude

/-!
# Integers as doubles

A double holds the first 53 binary digits of an integer, the rest being rounded.  Doubles are
ordered by their values, so two integers compare as doubles the way they compare after rounding, and
integers of up to 53 digits keep their value and their order.
-/

namespace Stencil

/-- A whole number with all but its first 53 binary digits rounded away. -/
def significant (value : Nat) : Nat :=
  let step := 2 ^ (value.log2 - 52)
  roundToEven value step * step

/-- Whole numbers of up to 53 binary digits lose nothing. -/
theorem significant_eq_self
    {value : Nat}
    (digits : value.log2 ≤ 52) : significant value = value := by
  apply roundToEven_mul_of_dvd (Nat.two_pow_pos _)
  rw [Nat.sub_eq_zero_of_le digits]
  exact Nat.one_dvd value

theorem significant_eq_self_of_lt
    {value : Nat}
    (digits : value < 2 ^ 53) : significant value = value := by
  apply significant_eq_self
  by_cases zero : value = 0
  · rw [zero, Nat.log2_zero]
    exact Nat.zero_le 52
  · exact Nat.le_of_lt_succ ((Nat.log2_lt zero).mpr digits)

/-- Digits are counted from the first one, so further zeros at the end do not matter. -/
theorem significant_mul_two_pow (value exponent : Nat) :
    significant (value * 2 ^ exponent) = significant value * 2 ^ exponent := by
  by_cases zero : value = 0
  · rw [zero, Nat.zero_mul, significant_eq_self (by decide), Nat.zero_mul]
  have shifted : (value * 2 ^ exponent).log2 = value.log2 + exponent := by
    have positive := Nat.mul_pos (Nat.pos_of_ne_zero zero) (Nat.two_pow_pos exponent)
    rw [Nat.log2_eq_iff (Nat.ne_of_gt positive), Nat.add_right_comm, Nat.pow_add, Nat.pow_add]
    exact ⟨Nat.mul_le_mul_right _ (Nat.log2_self_le zero),
      Nat.mul_lt_mul_of_pos_right Nat.lt_log2_self (Nat.two_pow_pos exponent)⟩
  rcases Nat.lt_or_ge 52 value.log2 with long | short
  · have step : (value * 2 ^ exponent).log2 - 52 = value.log2 - 52 + exponent := by omega
    simp only [significant, step, Nat.pow_add]
    rw [roundToEven_mul_right (Nat.two_pow_pos _) value (Nat.two_pow_pos exponent), Nat.mul_assoc]
  · rw [significant_eq_self short]
    apply roundToEven_mul_of_dvd (Nat.two_pow_pos _)
    rw [shifted]
    exact Nat.dvd_mul_left_of_dvd (Nat.pow_dvd_pow 2 (by omega)) value

theorem significant_two_pow (exponent : Nat) : significant (2 ^ exponent) = 2 ^ exponent := by
  have shifted := significant_mul_two_pow 1 exponent
  have one : significant 1 = 1 := significant_eq_self (by decide)
  rwa [one, Nat.one_mul] at shifted

namespace Double

/-- The magnitude nearest to a whole number of units. -/
theorem units_nearestRank_one (count : Nat) : units (nearestRank count 1) = significant count := by
  rw [units_nearestRank count Nat.one_pos, doublings, Nat.div_one, Nat.one_mul]
  rfl

theorem units_nearestRank_whole (value : Nat) :
    units (nearestRank (value * unitsPerOne) 1) = significant value * unitsPerOne := by
  rw [units_nearestRank_one]
  unfold unitsPerOne
  generalize 1074 = exponent
  exact significant_mul_two_pow value exponent

end Double

/-- A larger number does not become smaller. -/
theorem significant_mono
    {value larger : Nat}
    (grows : value ≤ larger) : significant value ≤ significant larger := by
  rw [← Double.units_nearestRank_one, ← Double.units_nearestRank_one]
  have order := Double.nearestRank_mono value Nat.one_pos grows
  exact Nat.le_of_not_lt fun less => Nat.not_lt_of_le order (Double.units_lt_units_iff.mp less)

namespace Finite

variable {left right : Finite}

/-- Finite numbers are ordered by their values. -/
theorem signedRank_lt_iff :
    left.signedRank < right.signedRank ↔ left.signedUnits < right.signedUnits := by
  have order := @Double.units_lt_units_iff left.rank right.rank
  have reverse := @Double.units_lt_units_iff right.rank left.rank
  have leftPositive := @Double.units_lt_units_iff 0 left.rank
  have rightPositive := @Double.units_lt_units_iff 0 right.rank
  rw [Double.units_zero] at leftPositive rightPositive
  unfold signedRank signedUnits units
  cases left.negative <;> cases right.negative <;> simp <;> omega

theorem compare_signedRank :
    compare left.signedRank right.signedRank = compare left.signedUnits right.signedUnits := by
  rw [Int.compare_eq_ite_lt, Int.compare_eq_ite_lt]
  simp only [signedRank_lt_iff]

end Finite

namespace Double

/-- The integer that a double holds of an integer. -/
def nearestInt (value : Int) : Int :=
  if value < 0 then -(significant value.natAbs : Int) else significant value.natAbs

/-- Numbers of 64 binary digits are far from the largest double. -/
theorem two_pow_mul_unitsPerOne_lt : 2 ^ 64 * unitsPerOne < units rankCount := by
  rw [units_rankCount, stepCount_eq, show 2046 = 1074 + 972 from rfl]
  unfold unitsPerOne
  -- The powers are too large to be computed here.
  generalize 1074 = exponent
  change 2 ^ 64 * 2 ^ exponent < 2 ^ 52 * 2 ^ (exponent + 972)
  rw [← Nat.pow_add, ← Nat.pow_add]
  exact Nat.pow_lt_pow_right (by decide) (by omega)

/-- The double nearest to a whole number of 64 binary digits is finite. -/
theorem ofQuotient_one_eq_finite
    (negative : Bool)
    {value : Nat}
    (small : value ≤ 2 ^ 64) :
    ∃ held : Finite, ofQuotient negative value 1 = .finite held ∧ held.negative = negative ∧
      held.units = significant value * unitsPerOne := by
  have short := significant_mono small
  rw [significant_two_pow] at short
  have finite : nearestRank (value * unitsPerOne) 1 < rankCount := by
    rw [← units_lt_units_iff, units_nearestRank_whole]
    exact Nat.lt_of_le_of_lt (Nat.mul_le_mul_right unitsPerOne short) two_pow_mul_unitsPerOne_lt
  exact ⟨⟨negative, _, finite⟩, dif_pos finite, rfl, units_nearestRank_whole value⟩

theorem ofInt_eq_finite
    {value : Int}
    (small : value.natAbs ≤ 2 ^ 64) :
    ∃ held : Finite, ofInt value = .finite held ∧
      held.signedUnits = nearestInt value * unitsPerOne := by
  obtain ⟨held, same, negative, units⟩ :=
    ofQuotient_one_eq_finite (decide (value < 0)) small
  refine ⟨held, same, ?_⟩
  rw [Finite.signedUnits, negative, units, nearestInt]
  by_cases below : value < 0
  · rw [decide_eq_true below, if_pos rfl, if_pos below, Int.natCast_mul, Int.neg_mul]
  · rw [decide_eq_false below, if_neg Bool.false_ne_true, if_neg below, Int.natCast_mul]

theorem order?_finite (left right : Finite) :
    (finite left).order? (finite right) = some (compare left.signedUnits right.signedUnits) := by
  rw [← Finite.compare_signedRank]
  rfl

/-- Integers compare as doubles as they do after rounding. -/
theorem order?_ofInt
    {left right : Int}
    (leftSmall : left.natAbs ≤ 2 ^ 64)
    (rightSmall : right.natAbs ≤ 2 ^ 64) :
    (ofInt left).order? (ofInt right) = some (compare (nearestInt left) (nearestInt right)) := by
  obtain ⟨leftHeld, leftSame, leftUnits⟩ := ofInt_eq_finite leftSmall
  obtain ⟨rightHeld, rightSame, rightUnits⟩ := ofInt_eq_finite rightSmall
  have positive : (0 : Int) < unitsPerOne := Int.natCast_pos.mpr unitsPerOne_pos
  rw [leftSame, rightSame, order?_finite, leftUnits, rightUnits, Int.compare_eq_ite_lt,
    Int.compare_eq_ite_lt]
  simp only [Int.mul_lt_mul_right positive]

/-- A larger integer does not become smaller. -/
theorem nearestInt_mono
    {left right : Int}
    (order : left ≤ right) : nearestInt left ≤ nearestInt right := by
  unfold nearestInt
  by_cases below : right < 0
  · have grows : right.natAbs ≤ left.natAbs := by omega
    have := significant_mono grows
    rw [if_pos below, if_pos (by omega)]
    omega
  · rw [if_neg below]
    split
    · omega
    · have grows : left.natAbs ≤ right.natAbs := by omega
      exact Int.ofNat_le.mpr (significant_mono grows)

/-- Integers of up to 53 binary digits keep their value. -/
theorem nearestInt_eq_self
    {value : Int}
    (digits : value.natAbs < 2 ^ 53) : nearestInt value = value := by
  rw [nearestInt, significant_eq_self_of_lt digits]
  split <;> omega

/-- No other integer is rounded to one of up to 53 binary digits. -/
theorem eq_of_nearestInt_eq
    {left right : Int}
    (digits : left.natAbs < 2 ^ 53)
    (same : nearestInt left = nearestInt right) : left = right := by
  rw [nearestInt_eq_self digits] at same
  rcases Nat.lt_or_ge right.natAbs (2 ^ 53) with short | long
  · rw [same, nearestInt_eq_self short]
  · have kept := significant_mono long
    rw [significant_two_pow] at kept
    unfold nearestInt at same
    split at same <;> omega

end Double

end Stencil
