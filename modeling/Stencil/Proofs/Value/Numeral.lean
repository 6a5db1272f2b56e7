import Stencil.Proofs.Number.Integer
import Stencil.Proofs.Number.Spelling
import Stencil.Value.Coercion

/-!
# Integers written in decimal

The text of an integer is read as the nearest double.  For an integer that is not too long the
nearest double is the integer itself, and the value of that double is an integer again.
-/

namespace Stencil

namespace Text

theorem ofInt_ne_nil (value : Int) : ofInt value ≠ [] := by
  unfold ofInt
  split
  · exact List.cons_ne_nil _ _
  · exact ofNat_ne_nil value.natAbs

/-- The text of an integer has only digits after its sign. -/
theorem isDigit_of_mem_ofInt
    {value : Int}
    {character : Char}
    (member : character ∈ ofInt value) : character.isDigit ∨ character = '-' := by
  unfold ofInt at member
  split at member
  · exact (List.mem_cons.mp member).symm.imp_left isDigit_of_mem_ofNat
  · exact .inl (isDigit_of_mem_ofNat member)

end Text

namespace Numeral

theorem sign_ofInt (value : Int) :
    sign (Text.ofInt value) = (decide (value < 0), Text.ofNat value.natAbs) := by
  unfold Text.ofInt
  split
  · next below => rw [sign, decide_eq_true below]
  · next notBelow =>
    have unsigned : ∀ character ∈ (Text.ofNat value.natAbs).head?, ¬ IsSign character :=
      fun _ first => not_isSign_of_isDigit (Text.isDigit_of_mem_ofNat (List.mem_of_mem_head? first))
    rw [decide_eq_false notBelow]
    exact sign_append .unwritten unsigned

theorem digits_ofNat (value : Nat) : digits (Text.ofNat value) = (Text.ofNat value, []) :=
  digits_of_isDigits fun _ => Text.isDigit_of_mem_ofNat

/-- Digits alone are read as a whole number. -/
theorem unsigned?_ofNat (negative : Bool) (value : Nat) :
    unsigned? negative (Text.ofNat value) = some (Double.ofDecimal negative value 0) := by
  have number : digitsValue (Text.ofNat value ++ []) = value := by
    rw [List.append_nil, digitsValue_ofNat]
  have some : (Text.ofNat value).isEmpty = false :=
    List.isEmpty_eq_false_iff.mpr (Text.ofNat_ne_nil value)
  rw [unsigned?, digits_ofNat]
  dsimp only [fraction, digits]
  rw [some, number]
  rfl

end Numeral

namespace Double

/-- A whole number that is not beyond all doubles is rounded to the nearest one. -/
theorem ofDecimal_zero
    (negative : Bool)
    {value : Nat}
    (short : decimalLength value ≤ 320) :
    ofDecimal negative value 0 = ofQuotient negative value 1 := by
  have notTiny : ¬ (decimalLength value + (0 : Int) < -330) := by omega
  have notHuge : ¬ (320 < decimalLength value + (0 : Int)) := by omega
  have whole : value * Nat.pow 10 (0 : Int).natAbs = value := Nat.mul_one value
  rw [ofDecimal, decide_eq_false notTiny, Bool.or_false, if_neg notHuge, if_neg (Int.lt_irrefl 0),
    whole]
  split
  · next zero =>
    rw [of_decide_eq_true zero, ofQuotient, Nat.zero_mul]
    rfl
  · rfl

/-- The text of an integer is read as the nearest double. -/
theorem ofText?_ofInt
    {value : Int}
    (short : decimalLength value.natAbs ≤ 320) :
    ofText? (Text.ofInt value) = some (ofInt value) := by
  rw [ofText?, Numeral.sign_ofInt]
  dsimp only
  rw [Numeral.unsigned?_ofNat, ofDecimal_zero _ short]
  rfl

end Double

/-- An integer of up to fifteen digits is read back from its text. -/
theorem Value.exists_ofText?_ofInt
    {value : Int}
    (small : value.natAbs < 10 ^ 15) :
    ∃ nearest, Double.ofText? (Text.ofInt value) = some (.finite nearest) ∧
      ofDouble (.finite nearest) = ofInt value := by
  obtain ⟨nearest, same, negative, units⟩ :=
    @Double.ofQuotient_one_eq_finite (decide (value < 0)) value.natAbs (by omega)
  rw [significant_eq_self_of_lt (by omega)] at units
  have short : Double.decimalLength value.natAbs ≤ 15 := Text.length_ofNat_le (by decide) small
  refine ⟨nearest, ?_, ?_⟩
  · rw [Double.ofText?_ofInt (Nat.le_trans short (by decide))]
    exact congrArg some same
  · have belowLimit : value.natAbs < Double.wholeLimit := small
    have bounded := Nat.mul_lt_mul_of_pos_right belowLimit Double.unitsPerOne_pos
    have integral : nearest.isIntegral := by
      rw [Finite.isIntegral, Finite.isWhole, units, Nat.mul_mod_left, decide_eq_true bounded]
      rfl
    have truncated : nearest.truncate = value := by
      rw [Finite.truncate, negative, units, Nat.mul_div_cancel _ Double.unitsPerOne_pos]
      by_cases below : value < 0
      · rw [decide_eq_true below, if_pos rfl]
        omega
      · rw [decide_eq_false below, if_neg Bool.false_ne_true]
        omega
    rw [ofDouble, if_pos integral, truncated]
    rfl

end Stencil
