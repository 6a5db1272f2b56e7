import Stencil.Proofs.Number.Rational
import Stencil.Value.Coercion

/-!
# Doubles as values

The result of a calculation is held as an integer when it is one and is not too large, as a double
when it is another finite number, and as a text otherwise.  Whichever it is, the text of the value
is the text of the double.
-/

namespace Stencil

namespace Finite

/-- The integer of 64 bits that a number is cast to.  Its places are cut off, and a number beyond
these integers becomes the last one on its side. -/
def toInt64 (value : Finite) : Int := max (-2 ^ 63) (min value.truncate (2 ^ 63 - 1))

/-- Whether a number is an integer of up to fifteen digits. -/
def IsShortInteger (value : Finite) : Prop :=
  (∃ whole : Int, value.toRat = whole) ∧ |value.toRat| < 10 ^ 15

variable {value : Finite}

/-- The cast to 64 bits keeps an integer of up to fifteen digits as it is. -/
theorem IsShortInteger.toRat_eq (short : value.IsShortInteger) : value.toRat = value.truncate :=
  toRat_eq_truncate (isWhole_iff.mpr short.1)

theorem IsShortInteger.toInt64_eq (short : value.IsShortInteger) :
    value.toInt64 = value.truncate := by
  have bound := short.2
  rw [short.toRat_eq, ← Int.cast_abs] at bound
  have small : |value.truncate| < 10 ^ 15 := by exact_mod_cast bound
  rw [abs_lt] at small
  rw [toInt64]
  omega

end Finite

namespace Value

theorem ofDouble_of_isShortInteger
    {value : Finite}
    (short : value.IsShortInteger) : ofDouble (.finite value) = ofInt value.truncate :=
  if_pos (Finite.isIntegral_iff.mpr short)

theorem ofDouble_of_not_isShortInteger
    {value : Finite}
    (other : ¬ value.IsShortInteger) : ofDouble (.finite value) = .number (.float value) :=
  if_neg fun integral => other (Finite.isIntegral_iff.mp integral)

theorem text_ofDouble (number : Double) : (ofDouble number).text = number.text := by
  cases number with
  | nan => rfl
  | infinite negative => rfl
  | finite value =>
    by_cases short : value.IsShortInteger
    · rw [ofDouble_of_isShortInteger short]
      exact (if_pos (Finite.isIntegral_iff.mpr short)).symm
    · rw [ofDouble_of_not_isShortInteger short]
      rfl

/-- A double and the value that holds it have one text.  The value is an integer exactly for the
integers of up to fifteen digits, which the cast to 64 bits neither cuts off nor clamps; it is a
double for all other finite numbers, and a text for the rest. -/
theorem ofDouble_holds (number : Double) :
    (ofDouble number).text = number.text ∧
      (∀ whole, ofDouble number = ofInt whole ↔
        ∃ value, number = .finite value ∧ value.IsShortInteger ∧
          value.toInt64 = whole ∧ value.toRat = whole) ∧
      (∀ value, ofDouble number = .number (.float value) ↔
        number = .finite value ∧ ¬ value.IsShortInteger) ∧
      ((∃ text, ofDouble number = .string text) ↔ ∀ value, number ≠ .finite value) := by
  refine ⟨text_ofDouble number, ?_⟩
  cases number with
  | nan => simp [ofDouble, ofInt]
  | infinite negative => simp [ofDouble, ofInt]
  | finite value =>
    by_cases short : value.IsShortInteger
    · simp [ofDouble_of_isShortInteger short, short.toRat_eq, short.toInt64_eq, ofInt, short]
    · simp [ofDouble_of_not_isShortInteger short, ofInt, short]

example : (ofDouble (.finite ⟨true, 0, by decide⟩)).text = "0".toList := by decide +kernel

end Value
end Stencil
