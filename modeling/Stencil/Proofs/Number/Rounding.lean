import Stencil.Number.Rounding

/-!
# Rounding a quotient

Of two whole numbers next to a quotient, rounding picks the nearer one, and the even one when they
are equally near.  There is only one such number, and it grows with the quotient; so it is enough to
know where a quotient lies in order to know what it is rounded to.
-/

namespace Stencil

/-- Whether a whole number is the nearest one to a quotient, and even if another one is as near. -/
structure IsRounding (numerator denominator rounded : Nat) : Prop where
  /-- The quotient is at most half above. -/
  above : 2 * numerator ≤ 2 * (rounded * denominator) + denominator
  /-- The quotient is at most half below. -/
  below : 2 * (rounded * denominator) ≤ 2 * numerator + denominator
  /-- Of two neighbours that are equally near, the even one counts. -/
  even :
    2 * numerator = 2 * (rounded * denominator) + denominator ∨
        2 * (rounded * denominator) = 2 * numerator + denominator →
      rounded % 2 = 0

namespace IsRounding

variable {numerator larger denominator rounded other : Nat}

/-- A larger quotient is not rounded to a smaller number. -/
theorem mono
    (positive : 0 < denominator)
    (rounds : IsRounding numerator denominator rounded)
    (otherRounds : IsRounding larger denominator other)
    (grows : numerator ≤ larger) : rounded ≤ other := by
  by_cases ordered : rounded ≤ other
  · exact ordered
  · -- Both quotients would lie halfway between two neighbours, of which only one is even.
    have apart := Nat.mul_le_mul_right denominator (Nat.lt_of_not_le ordered)
    rw [Nat.succ_mul] at apart
    have below := rounds.below
    have above := otherRounds.above
    have roundedEven := rounds.even (.inr (by omega))
    have otherEven := otherRounds.even (.inl (by omega))
    have farther := Nat.mul_le_mul_right denominator (show other + 2 ≤ rounded by omega)
    rw [Nat.add_mul] at farther
    omega

theorem unique
    (positive : 0 < denominator)
    (rounds : IsRounding numerator denominator rounded)
    (otherRounds : IsRounding numerator denominator other) : rounded = other :=
  Nat.le_antisymm (rounds.mono positive otherRounds (Nat.le_refl numerator))
    (otherRounds.mono positive rounds (Nat.le_refl numerator))

/-- A quotient that is whole is rounded to itself. -/
theorem whole
    (positive : 0 < denominator)
    (rounded : Nat) : IsRounding (rounded * denominator) denominator rounded :=
  ⟨by omega, by omega, fun tie => by omega⟩

/-- Rounding does not depend on the unit that numerator and denominator are counted in. -/
theorem scale
    {unit : Nat}
    (positive : 0 < unit)
    (rounds : IsRounding numerator denominator rounded) :
    IsRounding (numerator * unit) (denominator * unit) rounded := by
  have doubled (count : Nat) : 2 * (count * unit) = 2 * count * unit :=
    (Nat.mul_assoc 2 count unit).symm
  have scaled : rounded * (denominator * unit) = rounded * denominator * unit :=
    (Nat.mul_assoc rounded denominator unit).symm
  constructor
  · rw [scaled, doubled, doubled, ← Nat.add_mul]
    exact Nat.mul_le_mul_right unit rounds.above
  · rw [scaled, doubled, doubled, ← Nat.add_mul]
    exact Nat.mul_le_mul_right unit rounds.below
  · rw [scaled, doubled, doubled, ← Nat.add_mul, ← Nat.add_mul,
      Nat.mul_left_inj (Nat.ne_of_gt positive), Nat.mul_left_inj (Nat.ne_of_gt positive)]
    exact rounds.even

end IsRounding

variable {denominator : Nat} (positive : 0 < denominator)

include positive

/-- Rounding finds the nearest whole number. -/
theorem isRounding_roundToEven (numerator : Nat) :
    IsRounding numerator denominator (roundToEven numerator denominator) := by
  have split := Nat.div_add_mod' numerator denominator
  have short := Nat.mod_lt numerator positive
  have next := Nat.add_one_mul (numerator / denominator) denominator
  cases half : compare (2 * (numerator % denominator)) denominator with
  | lt =>
    have nearer := Nat.compare_eq_lt.mp half
    simp only [roundToEven, half]
    exact ⟨by omega, by omega, fun tie => by omega⟩
  | gt =>
    have farther := Nat.compare_eq_gt.mp half
    simp only [roundToEven, half]
    exact ⟨by omega, by omega, fun tie => by omega⟩
  | eq =>
    have tie := Nat.compare_eq_eq.mp half
    simp only [roundToEven, half]
    rcases Nat.mod_two_eq_zero_or_one (numerator / denominator) with even | odd
    · rw [even, Nat.add_zero]
      exact ⟨by omega, by omega, fun _ => even⟩
    · rw [odd]
      exact ⟨by omega, by omega, fun _ => by omega⟩

theorem roundToEven_eq_iff {numerator rounded : Nat} :
    roundToEven numerator denominator = rounded ↔
      IsRounding numerator denominator rounded :=
  ⟨fun same => same ▸ isRounding_roundToEven positive numerator,
    (isRounding_roundToEven positive numerator).unique positive⟩

theorem roundToEven_mono
    {numerator larger : Nat}
    (grows : numerator ≤ larger) :
    roundToEven numerator denominator ≤ roundToEven larger denominator :=
  (isRounding_roundToEven positive numerator).mono positive
    (isRounding_roundToEven positive larger) grows

theorem roundToEven_mul_self (whole : Nat) :
    roundToEven (whole * denominator) denominator = whole :=
  (roundToEven_eq_iff positive).mpr (.whole positive whole)

/-- A multiple of the denominator is rounded without loss. -/
theorem roundToEven_mul_of_dvd
    {numerator : Nat}
    (whole : denominator ∣ numerator) :
    roundToEven numerator denominator * denominator = numerator := by
  obtain ⟨count, rfl⟩ := whole
  rw [Nat.mul_comm denominator count, roundToEven_mul_self positive]

theorem roundToEven_mul_right
    (numerator : Nat)
    {unit : Nat}
    (unitPositive : 0 < unit) :
    roundToEven (numerator * unit) (denominator * unit) = roundToEven numerator denominator :=
  (roundToEven_eq_iff (Nat.mul_pos positive unitPositive)).mpr
    ((isRounding_roundToEven positive numerator).scale unitPositive)

end Stencil
