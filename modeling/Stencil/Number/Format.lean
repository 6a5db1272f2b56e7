import Stencil.Number.Shortest
import Stencil.Text.Basic

/-!
# Writing doubles

The same shortest digits are written in two forms: positionally whatever the magnitude, or with an
exponent where the magnitude is very large or very small.  A third form has a fixed number of places
and rounds the exact value.
-/

namespace Stencil
namespace Decimal

/-- The digits of the significand. -/
def digits (value : Decimal) : Text := Text.ofNat value.significand

/-- The power of ten of the first digit. -/
def leadingExponent (value : Decimal) : Int :=
  value.exponent + (value.digits.length : Int) - 1

/-- The number written without an exponent. -/
def positional (value : Decimal) : Text :=
  let digits := value.digits
  if 0 ≤ value.exponent then
    digits ++ List.replicate value.exponent.natAbs '0'
  else
    let places := value.exponent.natAbs
    let padded := Text.padZeros (places + 1) digits
    let whole := padded.length - places
    padded.take whole ++ '.' :: padded.drop whole

/-- The number written with one digit before the point and a signed exponent. -/
def scientific (value : Decimal) : Text :=
  let power := value.leadingExponent
  let sign := if power < 0 then '-' else '+'
  let tail := 'e' :: sign :: Text.ofNat power.natAbs
  match value.digits with
  | [] => tail
  | [digit] => digit :: tail
  | digit :: others => digit :: '.' :: others ++ tail

end Decimal

namespace Finite

/-- The text of a magnitude under the sign of the value. -/
def signed (value : Finite) (magnitude : Text) : Text :=
  if value.negative then '-' :: magnitude else magnitude

/-- The shortest decimal, written positionally. -/
def positional (value : Finite) : Text :=
  value.signed (Shortest.ofRank .up value.rank).positional

/-- The form in data text: positional with at least one place, or with an exponent where the first
digit stands below the fifth place or above the sixteenth digit. -/
def dataText (value : Finite) : Text :=
  let shortest := Shortest.ofRank .even value.rank
  let power := shortest.leadingExponent
  value.signed <|
    if power < -5 || 16 ≤ power then
      shortest.scientific
    else if 0 ≤ shortest.exponent then
      shortest.positional ++ ['.', '0']
    else
      shortest.positional

/-- The magnitude rounded to a number of places, as a whole number of the last place. -/
def inPlaces (value : Finite) (places : Nat) : Nat :=
  roundToEven (value.units * Nat.pow 10 places) Double.unitsPerOne

end Finite

namespace Double

/-- A number as output text.  Whole numbers below the limit are written as integers. -/
def text : Double → Text
  | nan => "NaN".toList
  | infinite negative => if negative then "-Infinity".toList else "Infinity".toList
  | finite value =>
    if value.isIntegral then
      Text.ofInt value.truncate
    else
      value.positional

end Double
end Stencil
