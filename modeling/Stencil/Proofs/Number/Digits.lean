import Mathlib.Data.List.Induction
import Mathlib.Tactic.Ring
import Stencil.Number.Numeral

/-!
# Decimal digits

A natural number is written with digits only, and reading the digits gives the number back, with any
number of zeros in front.
-/

namespace Stencil

namespace Numeral

/-- Whether a text has digits only. -/
def IsDigits (text : Text) : Prop := ∀ character ∈ text, character.isDigit

instance : DecidablePred IsDigits := fun text =>
  decidable_of_iff (text.all Char.isDigit = true) List.all_eq_true

theorem digitsValue_eq (digits : Text) : digitsValue digits = Nat.ofDigitChars 10 digits 0 :=
  Nat.ofDigitChars_eq_foldl.symm

theorem digitsValue_ofNat (value : Nat) : digitsValue (Text.ofNat value) = value := by
  rw [digitsValue_eq]
  exact Nat.ofDigitChars_ten_toDigits

/-- Digits behind others shift them to the left. -/
theorem digitsValue_append (front back : Text) :
    digitsValue (front ++ back) = digitsValue front * 10 ^ back.length + digitsValue back := by
  induction back using List.reverseRecOn with
  | nil => simp [digitsValue]
  | append_singleton back digit inductionHypothesis =>
    simp only [digitsValue] at inductionHypothesis ⊢
    rw [← List.append_assoc, List.foldl_append, inductionHypothesis, List.foldl_append]
    simp only [List.foldl_cons, List.foldl_nil, List.length_append, List.length_singleton]
    rw [Nat.pow_succ]
    ring

/-- Zeros in front do not change what digits stand for. -/
theorem digitsValue_padZeros
    (width : Nat)
    (digits : Text) : digitsValue (Text.padZeros width digits) = digitsValue digits := by
  rw [digitsValue_eq, digitsValue_eq, Text.padZeros, Nat.ofDigitChars_append,
    Nat.ofDigitChars_replicate_zero, Nat.mul_zero]

end Numeral

namespace Text

theorem isDigit_of_mem_ofNat
    {value : Nat}
    {character : Char}
    (member : character ∈ ofNat value) : character.isDigit :=
  Nat.isDigit_of_mem_toDigits (by decide) (by decide) member

theorem ofNat_ne_nil (value : Nat) : ofNat value ≠ [] := Nat.toDigits_ne_nil

theorem length_ofNat_le
    {value places : Nat}
    (positive : 0 < places)
    (small : value < 10 ^ places) : (ofNat value).length ≤ places :=
  (Nat.length_toDigits_le_iff (by decide) positive).mpr small

theorem length_padZeros
    {width : Nat}
    {text : Text}
    (fits : text.length ≤ width) : (padZeros width text).length = width := by
  rw [padZeros, List.length_append, List.length_replicate]
  omega

theorem isDigit_of_mem_padZeros
    {width : Nat}
    {text : Text}
    {character : Char}
    (digits : ∀ character ∈ text, character.isDigit)
    (member : character ∈ padZeros width text) : character.isDigit := by
  rcases List.mem_append.mp member with zero | written
  · rw [List.eq_of_mem_replicate zero]
    decide
  · exact digits character written

end Text

end Stencil
