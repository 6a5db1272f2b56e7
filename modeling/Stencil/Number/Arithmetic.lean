import Stencil.Number.Rounding

/-!
# Arithmetic on doubles

Each operation on finite numbers computes the exact result and rounds it once.  The remaining rules
say which sign a zero has and where a result is infinite or not a number.
-/

namespace Stencil
namespace Double

/-- Sum of two finite numbers.  A sum that vanishes is a negative zero only for two negatives. -/
def addFinite (left right : Finite) : Double :=
  let total := left.signedUnits + right.signedUnits
  if total = 0 then
    ofRank (left.negative && right.negative) 0
  else
    ofRank (decide (total < 0)) (nearestRank total.natAbs 1)

/-- Sum of two numbers. -/
def add : Double → Double → Double
  | nan, _ => nan
  | _, nan => nan
  | infinite left, infinite right => if left = right then infinite left else nan
  | infinite negative, finite _ => infinite negative
  | finite _, infinite negative => infinite negative
  | finite left, finite right => addFinite left right

/-- Difference of two numbers. -/
def subtract (left right : Double) : Double := left.add right.negate

/-- Product of two numbers. -/
def multiply : Double → Double → Double
  | nan, _ => nan
  | _, nan => nan
  | infinite left, infinite right => infinite (left ^^ right)
  | infinite left, finite right =>
    if right.isZero then nan else infinite (left ^^ right.negative)
  | finite left, infinite right =>
    if left.isZero then nan else infinite (left.negative ^^ right)
  | finite left, finite right =>
    ofRank (left.negative ^^ right.negative) (nearestRank (left.units * right.units) unitsPerOne)

/-- Quotient of two numbers. -/
def divide : Double → Double → Double
  | nan, _ => nan
  | _, nan => nan
  | infinite _, infinite _ => nan
  | infinite left, finite right => infinite (left ^^ right.negative)
  | finite left, infinite right => ofRank (left.negative ^^ right) 0
  | finite left, finite right =>
    if right.isZero then
      if left.isZero then nan else infinite (left.negative ^^ right.negative)
    else
      ofQuotient (left.negative ^^ right.negative) left.units right.units

end Double
end Stencil
