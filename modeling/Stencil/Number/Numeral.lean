import Stencil.Number.Rounding
import Stencil.Text.Basic

/-!
# Reading doubles

A numeral is an optional sign, digits with an optional point among or around them, and an optional
exponent.  Besides numerals, three words in any case are read: `inf`, `infinity` and `nan`.
-/

namespace Stencil
namespace Numeral

/-- The value of a decimal digit. -/
def digitValue (digit : Char) : Nat := digit.toNat - '0'.toNat

/-- The value of a list of digits. -/
def digitsValue (digits : Text) : Nat :=
  digits.foldl (fun value digit => 10 * value + digitValue digit) 0

/-- A sign and what follows it; a text without a sign is positive. -/
def sign : Text → Bool × Text
  | '+' :: rest => (false, rest)
  | '-' :: rest => (true, rest)
  | text => (false, text)

/-- The leading digits of a text and what follows them. -/
def digits (text : Text) : Text × Text :=
  (text.takeWhile Char.isDigit, text.dropWhile Char.isDigit)

/-- The digits after a point, if there is one, and what follows them. -/
def fraction : Text → Text × Text
  | '.' :: rest => digits rest
  | text => ([], text)

/-- An exponent that takes up the whole text, or nothing for an empty text. -/
def exponent? : Text → Option Int
  | [] => some 0
  | mark :: rest =>
    if mark = 'e' || mark = 'E' then
      let (negative, unsigned) := sign rest
      let (power, after) := digits unsigned
      if power.isEmpty || !after.isEmpty then
        none
      else if negative then
        some (-(digitsValue power : Int))
      else
        some (digitsValue power)
    else
      none

/-- The double nearest to an unsigned numeral, under a sign. -/
def unsigned? (negative : Bool) (text : Text) : Option Double :=
  let (whole, afterWhole) := digits text
  let (places, afterPlaces) := fraction afterWhole
  if whole.isEmpty && places.isEmpty then
    none
  else
    (exponent? afterPlaces).map fun power =>
      Double.ofDecimal negative (digitsValue (whole ++ places)) (power - places.length)

/-- The double that a word in lower case stands for. -/
def word? (negative : Bool) (lower : Text) : Option Double :=
  if lower = "nan".toList then
    some .nan
  else if lower = "inf".toList || lower = "infinity".toList then
    some (.infinite negative)
  else
    none

end Numeral

/-- The double that a text stands for. -/
def Double.ofText? (text : Text) : Option Double :=
  let (negative, unsigned) := Numeral.sign text
  match Numeral.unsigned? negative unsigned with
  | some value => some value
  | none => Numeral.word? negative (unsigned.map Char.toLower)

end Stencil
