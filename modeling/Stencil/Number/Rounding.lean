import Stencil.Number.Double

/-!
# Rounding to the nearest double

Exact results are quotients of natural numbers.  Rounding picks the nearest double, and of two
equally near ones the one of even rank; beyond the largest finite magnitude it gives an infinity.
-/

namespace Stencil

/-- The whole number nearest to a quotient, a half going to the even neighbour. -/
def roundToEven (numerator denominator : Nat) : Nat :=
  let quotient := numerator / denominator
  let remainder := numerator % denominator
  match compare (2 * remainder) denominator with
  | .lt => quotient
  | .gt => quotient + 1
  | .eq => quotient + quotient % 2

namespace Double

/-- The rank nearest to a quotient of units.  The quotient is measured in the step of its power of
two, and a step more than fills a power of two exactly when it reaches the next one. -/
def nearestRank (numerator denominator : Nat) : Nat :=
  let doublings := (numerator / denominator).log2 - 52
  doublings * stepCount + roundToEven numerator (denominator * Nat.pow 2 doublings)

/-- The double nearest to a quotient of natural numbers, under a sign. -/
def ofQuotient (negative : Bool) (numerator denominator : Nat) : Double :=
  ofRank negative (nearestRank (numerator * unitsPerOne) denominator)

/-- The double nearest to an integer. -/
def ofInt (value : Int) : Double := ofQuotient (decide (value < 0)) value.natAbs 1

/-- Number of decimal digits of a natural number. -/
def decimalLength (value : Nat) : Nat := (Nat.toDigits 10 value).length

/-- The double nearest to a natural number times a power of ten.  Powers far outside the range of
doubles are decided without computing them. -/
def ofDecimal (negative : Bool) (significand : Nat) (exponent : Int) : Double :=
  let reach := decimalLength significand + exponent
  if significand = 0 || reach < -330 then
    ofRank negative 0
  else if 320 < reach then
    infinite negative
  else if exponent < 0 then
    ofQuotient negative significand (Nat.pow 10 exponent.natAbs)
  else
    ofQuotient negative (significand * Nat.pow 10 exponent.natAbs) 1

end Double
end Stencil
