import Stencil.Proofs.Number.Spelling
import Stencil.Value.Coercion

/-!
# Casting texts to numbers

A text casts to a number by what is left between the blanks around it: nothing casts to zero, a
decimal numeral to the nearest double, and everything else to no number.  Past any signs a numeral
begins with a digit or a point, which keeps the words for infinite and undefined numbers out.
-/

namespace Stencil

namespace Numeral

/-- The words for numbers that are not finite, in lower case. -/
def nonFiniteWords : List Text := ["inf".toList, "infinity".toList, "nan".toList]

theorem word?_eq_none
    (negative : Bool)
    {lower : Text}
    (other : lower ∉ nonFiniteWords) : word? negative lower = none := by
  simp only [nonFiniteWords, List.mem_cons, List.not_mem_nil, or_false, not_or] at other
  rw [word?, if_neg other.2.2, if_neg]
  rw [Bool.or_eq_true, decide_eq_true_iff, decide_eq_true_iff, not_or]
  exact ⟨other.1, other.2.1⟩

end Numeral

namespace Value

open Numeral

/-- What a text without blanks around it casts to. -/
inductive Casts : Text → Double → Prop where
  /-- The empty text casts to zero. -/
  | empty : Casts [] .zero
  /-- A numeral casts to its number, rounded to a double. -/
  | numeral {spelling : Spelling} {rounded : Double}
      (rounds : Double.IsRounded spelling.sign.isNegative spelling.magnitude rounded) :
      Casts spelling.text rounded
  /-- Every other text casts to no number. -/
  | other {text : Text}
      (nonempty : text ≠ [])
      (unspelled : ∀ spelling : Spelling, text ≠ spelling.text) :
      Casts text .nan

theorem exists_casts (text : Text) : ∃ number, Casts text number := by
  by_cases spelled : ∃ spelling : Spelling, text = spelling.text
  · obtain ⟨spelling, rfl⟩ := spelled
    obtain ⟨rounded, -, rounds⟩ := spelling.exists_ofText?_text
    exact ⟨rounded, .numeral rounds⟩
  · by_cases empty : text = []
    · exact ⟨.zero, empty ▸ .empty⟩
    · exact ⟨.nan, .other empty (not_exists.mp spelled)⟩

/-- Signs are passed over. -/
theorem startsNumeral_append
    {signs : Text}
    (areSigns : ∀ character ∈ signs, IsSign character)
    (rest : Text) : startsNumeral (signs ++ rest) = startsNumeral rest := by
  unfold startsNumeral
  rw [List.dropWhile_append_of_pos]
  intro character member
  rw [Bool.or_eq_true, decide_eq_true_iff, decide_eq_true_iff]
  exact areSigns character member

theorem startsNumeral_cons
    {first : Char}
    (notSign : ¬ IsSign first)
    (rest : Text) : startsNumeral (first :: rest) = (first.isDigit || first = '.') := by
  have kept : ¬ (decide (first = '+') || decide (first = '-')) = true := by
    rwa [Bool.or_eq_true, decide_eq_true_iff, decide_eq_true_iff]
  unfold startsNumeral
  rw [List.dropWhile_cons, if_neg kept]

theorem isSign_of_mem_text
    {written : Sign}
    {character : Char}
    (member : character ∈ written.text) : IsSign character := by
  cases written with
  | unwritten => exact absurd member List.not_mem_nil
  | plus => exact .inl (List.mem_singleton.mp member)
  | minus => exact .inr (List.mem_singleton.mp member)

/-- Every numeral begins like one. -/
theorem startsNumeral_text (spelling : Spelling) : startsNumeral spelling.text = true := by
  obtain ⟨first, rest, written, begins⟩ := spelling.exists_unsignedText_eq
  have notSign : ¬ IsSign first := by
    rcases begins with digit | rfl
    · exact not_isSign_of_isDigit digit
    · decide
  rw [Spelling.text, startsNumeral_append (fun _ => isSign_of_mem_text), written,
    startsNumeral_cons notSign, Bool.or_eq_true, decide_eq_true_iff]
  exact begins

theorem toLower_of_isDigit
    {character : Char}
    (digit : character.isDigit) : character.toLower = character := by
  rw [Char.isDigit, Bool.and_eq_true, decide_eq_true_iff, decide_eq_true_iff] at digit
  refine dif_neg fun capital => ?_
  exact absurd (UInt32.le_trans capital.1 digit.2) (by decide)

/-- The words for numbers that are not finite do not begin like numerals. -/
theorem startsNumeral_of_mem_nonFiniteWords
    {word : Text}
    (isWord : word.map Char.toLower ∈ nonFiniteWords) : startsNumeral word = false := by
  cases word with
  | nil => exact absurd isWord (by decide)
  | cons first rest =>
    have letter : first.toLower = 'i' ∨ first.toLower = 'n' := by
      simp only [nonFiniteWords, List.mem_cons, List.not_mem_nil, or_false] at isWord
      rcases isWord with inf | infinity | nan
      · exact .inl (List.cons.inj inf).1
      · exact .inl (List.cons.inj infinity).1
      · exact .inr (List.cons.inj nan).1
    have notSign : ¬ IsSign first := by
      rintro (rfl | rfl)
      · exact absurd letter (by decide)
      · exact absurd letter (by decide)
    rw [startsNumeral_cons notSign, Bool.or_eq_false_iff, decide_eq_false_iff_not,
      Bool.eq_false_iff]
    refine ⟨fun digit => ?_, ?_⟩
    · rw [toLower_of_isDigit digit] at letter
      rcases letter with rfl | rfl
      · exact absurd digit (by decide)
      · exact absurd digit (by decide)
    · rintro rfl
      exact absurd letter (by decide)

/-- What begins like a numeral is read as a number only if it is one. -/
theorem exists_spelling_of_ofText?
    {text : Text}
    (starts : startsNumeral text = true)
    {number : Double}
    (read : Double.ofText? text = some number) : ∃ spelling : Spelling, text = spelling.text := by
  obtain ⟨written, split⟩ := exists_eq_sign_append text
  rw [Double.ofText?] at read
  dsimp only at read
  split at read
  case h_1 digits =>
    obtain ⟨spelling, sign, unsigned⟩ := exists_unsignedText_of_unsigned? digits written
    exact ⟨spelling, by rw [Spelling.text, sign, unsigned, ← split]⟩
  case h_2 =>
    rw [split, startsNumeral_append fun _ => isSign_of_mem_text] at starts
    have noWord : (sign text).2.map Char.toLower ∉ nonFiniteWords := fun isWord => by
      rw [startsNumeral_of_mem_nonFiniteWords isWord] at starts
      exact absurd starts Bool.false_ne_true
    rw [word?_eq_none _ noWord] at read
    exact absurd read.symm (Option.some_ne_none number)

/-- A text casts to what is left of it without the blanks around it casts to. -/
theorem castText_eq_of_casts
    {text : Text}
    {number : Double}
    (casts : Casts (Text.trim text) number) : castText text = number := by
  unfold castText
  generalize Text.trim text = trimmed at casts
  dsimp only
  cases casts with
  | empty => rfl
  | @numeral spelling _ rounds =>
    obtain ⟨rounded, read, rounded_isRounded⟩ := spelling.exists_ofText?_text
    obtain ⟨first, rest, written, -⟩ := spelling.exists_unsignedText_eq
    have nonempty : ¬ spelling.text.isEmpty = true := by
      rw [List.isEmpty_iff, Spelling.text, written]
      exact List.append_ne_nil_of_right_ne_nil _ (List.cons_ne_nil first rest)
    rw [if_neg nonempty, if_pos (startsNumeral_text spelling), read]
    exact rounded_isRounded.unique rounds
  | other nonempty unspelled =>
    rw [if_neg (List.isEmpty_iff.not.mpr nonempty)]
    split
    case isFalse => rfl
    case isTrue starts =>
      cases read : Double.ofText? trimmed with
      | none => rfl
      | some number =>
        obtain ⟨spelling, spelled⟩ := exists_spelling_of_ofText? starts read
        exact absurd spelled (unspelled spelling)

/-- A text casts to the nearest double of the numeral that is left without the blanks around it, to
zero if nothing is left, and otherwise to no number.  In particular the words for numbers that are
not finite cast to no number under any signs, and so does what follows two signs. -/
theorem toDouble_string_iff (text : Text) :
    (∀ number, toDouble (some (.string text)) = number ↔ Casts (Text.trim text) number) ∧
      (∀ signs word, (∀ character ∈ signs, IsSign character) →
        word.map Char.toLower ∈ nonFiniteWords → Text.trim text = signs ++ word →
        toDouble (some (.string text)) = .nan) ∧
      ∀ first second rest, IsSign first → IsSign second →
        Text.trim text = first :: second :: rest → toDouble (some (.string text)) = .nan := by
  refine ⟨fun number => ⟨fun same => ?_, castText_eq_of_casts⟩, ?_, ?_⟩
  · obtain ⟨other, casts⟩ := exists_casts (Text.trim text)
    obtain rfl := (castText_eq_of_casts casts).symm.trans same
    exact casts
  · intro signs word areSigns isWord trimmed
    have notStarted : startsNumeral (Text.trim text) = false := by
      rw [trimmed, startsNumeral_append areSigns, startsNumeral_of_mem_nonFiniteWords isWord]
    refine castText_eq_of_casts (.other ?_ fun spelling spelled => ?_)
    · rintro empty
      rw [trimmed] at empty
      rw [(List.append_eq_nil_iff.mp empty).2] at isWord
      exact absurd isWord (by decide)
    · rw [spelled, startsNumeral_text] at notStarted
      exact nomatch notStarted
  · intro first second rest firstSign secondSign trimmed
    refine castText_eq_of_casts (.other (by simp [trimmed]) fun spelling spelled => ?_)
    exact spelling.text_ne_of_isSign firstSign secondSign (spelled.symm.trans trimmed)

/-- A numeral between blanks without a digit before its point, and a word after two signs. -/
theorem toDouble_string_iff_blanks :
    (∃ number, toDouble (some (.string "\u2003-.5E+1\n".toList)) = number ∧
      Double.IsRounded true 5 number) ∧
      toDouble (some (.string "+-iNf".toList)) = .nan := by
  let spelling : Spelling :=
    { sign := .minus
      whole := []
      places? := some ['5']
      exponent? := some ⟨'E', .plus, ['1'], .inr rfl, by decide, by decide⟩
      whole_isDigits := by decide
      places_isDigits := by decide
      hasDigit := .inr (by decide) }
  have trimmed : Text.trim "\u2003-.5E+1\n".toList = spelling.text := by decide
  have signs : ∀ character ∈ ['+', '-'], IsSign character := by simp [IsSign]
  have five : spelling.magnitude = 5 := by
    change ((0 : Nat) + (5 : Nat) / 10 ^ 1) * 10 ^ (1 : Int) = (5 : ℚ)
    norm_num
  obtain ⟨number, -, rounds⟩ := spelling.exists_ofText?_text
  refine ⟨⟨number, ?_, five ▸ rounds⟩, ?_⟩
  · exact ((toDouble_string_iff _).1 number).mpr (trimmed ▸ .numeral rounds)
  · exact (toDouble_string_iff _).2.1 ['+', '-'] "iNf".toList signs (by decide) (by decide)

end Value
end Stencil
