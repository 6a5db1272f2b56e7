import Mathlib.Data.List.TakeWhile
import Mathlib.Tactic.FieldSimp
import Mathlib.Tactic.Ring
import Stencil.Proofs.Number.Decimal
import Stencil.Proofs.Number.Digits

/-!
# Decimal numerals

A decimal numeral is a sign that need not be written, digits with a point that need not be written,
and an exponent that need not be written.  Every numeral is read as its number, rounded to a
double; and whatever is read as a number, other than the words for numbers that are not finite, is a
numeral.
-/

namespace Stencil
namespace Numeral

/-- Whether a character is a sign. -/
def IsSign (character : Char) : Prop := character = '+' ∨ character = '-'

instance : DecidablePred IsSign := fun character =>
  inferInstanceAs (Decidable (character = '+' ∨ character = '-'))

/-- A sign that need not be written. -/
inductive Sign where
  /-- No sign is written. -/
  | unwritten
  /-- A plus sign. -/
  | plus
  /-- A minus sign. -/
  | minus
deriving DecidableEq, Repr

/-- How a sign is written. -/
def Sign.text : Sign → Text
  | unwritten => []
  | plus => ['+']
  | minus => ['-']

/-- Whether a sign makes a number negative. -/
def Sign.isNegative : Sign → Bool
  | unwritten => false
  | plus => false
  | minus => true

/-- An exponent as it is written. -/
structure Exponent where
  /-- The letter that begins it. -/
  letter : Char
  /-- The sign of the power. -/
  sign : Sign
  /-- The digits of the power. -/
  digits : Text
  /-- The letter is an `e` in either case. -/
  letter_eq : letter = 'e' ∨ letter = 'E'
  /-- The power is written with digits. -/
  isDigits : IsDigits digits
  /-- There is a digit. -/
  digits_ne_nil : digits ≠ []

/-- How an exponent is written. -/
def Exponent.text (exponent : Exponent) : Text :=
  exponent.letter :: (exponent.sign.text ++ exponent.digits)

/-- The power of ten. -/
def Exponent.power (exponent : Exponent) : Int :=
  if exponent.sign.isNegative then
    -(digitsValue exponent.digits : Int)
  else
    digitsValue exponent.digits

/-- A decimal numeral as it is written. -/
structure Spelling where
  /-- The sign. -/
  sign : Sign
  /-- The digits before the point. -/
  whole : Text
  /-- The digits after the point, if there is a point. -/
  places? : Option Text
  /-- The exponent, if there is one. -/
  exponent? : Option Exponent
  /-- There are only digits before the point. -/
  whole_isDigits : IsDigits whole
  /-- There are only digits after the point. -/
  places_isDigits : IsDigits (places?.getD [])
  /-- There is a digit before the point or after it. -/
  hasDigit : whole ≠ [] ∨ places?.getD [] ≠ []

namespace Spelling

/-- The digits after the point. -/
def places (spelling : Spelling) : Text := spelling.places?.getD []

/-- How the point and the digits after it are written. -/
def fractionText (spelling : Spelling) : Text := (spelling.places?.map ('.' :: ·)).getD []

/-- How the exponent is written. -/
def exponentText (spelling : Spelling) : Text := (spelling.exponent?.map Exponent.text).getD []

/-- The power of ten that the digits are multiplied by. -/
def power (spelling : Spelling) : Int := (spelling.exponent?.map Exponent.power).getD 0

/-- How the numeral is written without its sign. -/
def unsignedText (spelling : Spelling) : Text :=
  spelling.whole ++ (spelling.fractionText ++ spelling.exponentText)

/-- How the numeral is written. -/
def text (spelling : Spelling) : Text := spelling.sign.text ++ spelling.unsignedText

/-- The number that is written, without its sign. -/
def magnitude (spelling : Spelling) : ℚ :=
  (digitsValue spelling.whole + digitsValue spelling.places / 10 ^ spelling.places.length) *
    10 ^ spelling.power

end Spelling

section Reading

/-- Digits are read up to the first other character. -/
theorem digits_append
    {front rest : Text}
    (isDigits : IsDigits front)
    (ends : ∀ character ∈ rest.head?, ¬ character.isDigit) :
    digits (front ++ rest) = (front, rest) := by
  rw [digits, List.takeWhile_append_of_pos isDigits, List.dropWhile_append_of_pos isDigits]
  cases rest with
  | nil => simp
  | cons character rest =>
    have other := ends character rfl
    simp [other]

theorem digits_of_isDigits
    {text : Text}
    (isDigits : IsDigits text) : digits text = (text, []) := by
  have ends : ∀ character ∈ ([] : Text).head?, ¬ character.isDigit := nofun
  have read := digits_append isDigits ends
  rwa [List.append_nil] at read

theorem isDigits_digits (text : Text) : IsDigits (digits text).1 :=
  fun _ member => List.mem_takeWhile_imp member

theorem digits_fst_append_snd (text : Text) : (digits text).1 ++ (digits text).2 = text :=
  List.takeWhile_append_dropWhile

/-- A sign is read when something else than a second sign follows. -/
theorem sign_append
    (written : Sign)
    {rest : Text}
    (ends : ∀ character ∈ rest.head?, ¬ IsSign character) :
    sign (written.text ++ rest) = (written.isNegative, rest) := by
  cases written with
  | plus => rfl
  | minus => rfl
  | unwritten =>
    change sign rest = (false, rest)
    unfold sign
    split
    · exact absurd (.inl rfl) (ends '+' rfl)
    · exact absurd (.inr rfl) (ends '-' rfl)
    · rfl

theorem exists_eq_sign_append (text : Text) :
    ∃ written : Sign, text = written.text ++ (sign text).2 := by
  unfold sign
  split
  · exact ⟨.plus, rfl⟩
  · exact ⟨.minus, rfl⟩
  · exact ⟨.unwritten, rfl⟩

theorem not_isSign_of_isDigit
    {character : Char}
    (digit : character.isDigit) : ¬ IsSign character := by
  rintro (rfl | rfl)
  · exact absurd digit (by decide)
  · exact absurd digit (by decide)

theorem fraction_of_head?
    {text : Text}
    (noPoint : ∀ character ∈ text.head?, character ≠ '.') : fraction text = ([], text) := by
  unfold fraction
  split
  · exact absurd rfl (noPoint '.' rfl)
  · rfl

theorem begins_iff {letter : Char} :
    (decide (letter = 'e') || decide (letter = 'E')) = true ↔ letter = 'e' ∨ letter = 'E' := by
  rw [Bool.or_eq_true, decide_eq_true_iff, decide_eq_true_iff]

theorem exponent?_text (exponent : Exponent) : exponent? exponent.text = some exponent.power := by
  have unsigned : ∀ character ∈ exponent.digits.head?, ¬ IsSign character := fun character first =>
    not_isSign_of_isDigit (exponent.isDigits character (List.mem_of_mem_head? first))
  have nonempty : exponent.digits.isEmpty = false :=
    List.isEmpty_eq_false_iff.mpr exponent.digits_ne_nil
  rw [Exponent.text, exponent?, if_pos (begins_iff.mpr exponent.letter_eq),
    sign_append exponent.sign unsigned]
  dsimp only
  rw [digits_of_isDigits exponent.isDigits, Exponent.power]
  dsimp only
  rw [nonempty]
  cases exponent.sign.isNegative <;> rfl

/-- What is read as a fraction is a point with digits, or nothing. -/
theorem exists_eq_fraction_append (text : Text) :
    ∃ places? : Option Text, (fraction text).1 = places?.getD [] ∧ IsDigits (places?.getD []) ∧
      text = (places?.map ('.' :: ·)).getD [] ++ (fraction text).2 := by
  unfold fraction
  split
  · next rest =>
    refine ⟨some (digits rest).1, rfl, isDigits_digits rest, ?_⟩
    exact congrArg ('.' :: ·) (digits_fst_append_snd rest).symm
  · exact ⟨none, rfl, fun _ member => absurd member List.not_mem_nil, rfl⟩

/-- What is read as an exponent is an exponent, or nothing. -/
theorem exists_eq_text_of_exponent?
    {text : Text}
    {power : Int}
    (read : exponent? text = some power) :
    ∃ written? : Option Exponent, text = (written?.map Exponent.text).getD [] := by
  cases text with
  | nil => exact ⟨none, rfl⟩
  | cons letter rest =>
    obtain ⟨written, split⟩ := exists_eq_sign_append rest
    have whole := digits_fst_append_snd (sign rest).2
    rw [exponent?] at read
    dsimp only at read
    split at read
    case isFalse => exact nomatch read
    case isTrue begins =>
      split at read
      case isTrue => exact nomatch read
      case isFalse complete =>
        rw [Bool.or_eq_true, not_or, Bool.not_eq_true, List.isEmpty_eq_false_iff,
          Bool.not_eq_true, Bool.not_eq_false', List.isEmpty_iff] at complete
        rw [complete.2, List.append_nil] at whole
        refine ⟨some ⟨letter, written, (digits (sign rest).2).1, begins_iff.mp begins,
          isDigits_digits _, complete.1⟩, ?_⟩
        exact congrArg (letter :: ·) (split.trans (congrArg (written.text ++ ·) whole.symm))

end Reading

namespace Spelling

variable (spelling : Spelling)

/-- An exponent begins with a letter. -/
theorem head?_exponentText
    {character : Char}
    (first : character ∈ spelling.exponentText.head?) : character = 'e' ∨ character = 'E' := by
  unfold exponentText at first
  cases written : spelling.exponent? with
  | none =>
    rw [written] at first
    exact nomatch first
  | some exponent =>
    rw [written] at first
    obtain rfl := Option.some.inj first
    exact exponent.letter_eq

/-- The digits before the point end at the point or the exponent. -/
theorem head?_fractionText_append
    {character : Char}
    (first : character ∈ (spelling.fractionText ++ spelling.exponentText).head?) :
    character = '.' ∨ character = 'e' ∨ character = 'E' := by
  unfold fractionText at first
  cases point : spelling.places? with
  | none =>
    rw [point] at first
    exact .inr (spelling.head?_exponentText first)
  | some places =>
    rw [point] at first
    exact .inl (Option.some.inj first).symm

theorem exponent?_exponentText :
    Numeral.exponent? spelling.exponentText = some spelling.power := by
  unfold exponentText power
  cases spelling.exponent? with
  | none => rfl
  | some exponent => exact exponent?_text exponent

theorem fraction_append_exponentText :
    fraction (spelling.fractionText ++ spelling.exponentText) =
      (spelling.places, spelling.exponentText) := by
  have isDigits := spelling.places_isDigits
  unfold fractionText places
  cases point : spelling.places? with
  | none =>
    refine fraction_of_head? fun character first => ?_
    rcases spelling.head?_exponentText first with rfl | rfl <;> decide
  | some places =>
    rw [point] at isDigits
    refine digits_append isDigits fun character first => ?_
    rcases spelling.head?_exponentText first with rfl | rfl <;> decide

/-- The digits of a numeral are read as one whole number of its last place. -/
theorem unsigned?_unsignedText (negative : Bool) :
    unsigned? negative spelling.unsignedText =
      some (Double.ofDecimal negative (digitsValue (spelling.whole ++ spelling.places))
        (spelling.power - spelling.places.length)) := by
  have whole : digits spelling.unsignedText =
      (spelling.whole, spelling.fractionText ++ spelling.exponentText) := by
    refine digits_append spelling.whole_isDigits fun character first => ?_
    rcases spelling.head?_fractionText_append first with rfl | rfl | rfl <;> decide
  have some : ¬ (spelling.whole.isEmpty && spelling.places.isEmpty) = true := by
    rw [Bool.and_eq_true, List.isEmpty_iff, List.isEmpty_iff, not_and_or]
    exact spelling.hasDigit
  rw [unsigned?, whole]
  dsimp only
  rw [spelling.fraction_append_exponentText]
  dsimp only
  rw [if_neg some, spelling.exponent?_exponentText]
  rfl

/-- The digits of a numeral are those of a whole number of its last place. -/
theorem magnitude_eq :
    spelling.magnitude = digitsValue (spelling.whole ++ spelling.places) *
      10 ^ (spelling.power - spelling.places.length) := by
  rw [magnitude, digitsValue_append, zpow_sub₀ (by norm_num), zpow_natCast]
  push_cast
  field_simp

/-- After its sign a numeral begins with a digit or a point. -/
theorem exists_unsignedText_eq :
    ∃ first rest, spelling.unsignedText = first :: rest ∧ (first.isDigit ∨ first = '.') := by
  have isDigits := spelling.whole_isDigits
  have hasDigit := spelling.hasDigit
  unfold unsignedText fractionText
  cases whole : spelling.whole with
  | cons first rest => exact ⟨first, _, rfl, .inl (isDigits first (whole ▸ List.mem_cons_self))⟩
  | nil =>
    cases point : spelling.places? with
    | some places => exact ⟨'.', _, rfl, .inr rfl⟩
    | none =>
      rw [whole, point] at hasDigit
      exact absurd rfl (hasDigit.resolve_left fun different => different rfl)

theorem sign_text :
    Numeral.sign spelling.text = (spelling.sign.isNegative, spelling.unsignedText) := by
  refine sign_append spelling.sign fun character first => ?_
  obtain ⟨begin, rest, written, digit⟩ := spelling.exists_unsignedText_eq
  rw [written] at first
  obtain rfl := Option.some.inj first
  rcases digit with digit | rfl
  · exact not_isSign_of_isDigit digit
  · decide

/-- A numeral has no second sign. -/
theorem text_ne_of_isSign
    {first second : Char}
    (firstSign : IsSign first)
    (secondSign : IsSign second)
    {rest : Text} : spelling.text ≠ first :: second :: rest := by
  intro same
  obtain ⟨begin, behind, written, begins⟩ := spelling.exists_unsignedText_eq
  have unsigned : (Numeral.sign (first :: second :: rest)).2 = second :: rest := by
    rcases firstSign with rfl | rfl <;> rfl
  rw [← same, spelling.sign_text, written] at unsigned
  obtain ⟨rfl, -⟩ := List.cons.inj unsigned
  rcases begins with digit | rfl
  · exact not_isSign_of_isDigit digit secondSign
  · exact absurd secondSign (by decide)

/-- Every numeral is read, and its number is rounded correctly. -/
theorem exists_ofText?_text :
    ∃ rounded, Double.ofText? spelling.text = some rounded ∧
      Double.IsRounded spelling.sign.isNegative spelling.magnitude rounded := by
  refine ⟨_, ?_, spelling.magnitude_eq ▸ Double.isRounded_ofDecimal _ _ _⟩
  rw [Double.ofText?, spelling.sign_text]
  dsimp only
  rw [spelling.unsigned?_unsignedText]

end Spelling

/-- What is read as digits is a numeral under any sign. -/
theorem exists_unsignedText_of_unsigned?
    {negative : Bool}
    {text : Text}
    {number : Double}
    (read : unsigned? negative text = some number)
    (written : Sign) :
    ∃ spelling : Spelling, spelling.sign = written ∧ spelling.unsignedText = text := by
  have whole := digits_fst_append_snd text
  obtain ⟨places?, same, isDigits, fraction⟩ := exists_eq_fraction_append (digits text).2
  rw [unsigned?] at read
  dsimp only at read
  split at read
  case isTrue => exact nomatch read
  case isFalse hasDigit =>
    obtain ⟨power, readPower, -⟩ := Option.map_eq_some_iff.mp read
    obtain ⟨exponent?, exponent⟩ := exists_eq_text_of_exponent? readPower
    rw [Bool.and_eq_true, List.isEmpty_iff, List.isEmpty_iff, not_and_or, same] at hasDigit
    refine ⟨⟨written, (digits text).1, places?, exponent?, isDigits_digits text, isDigits,
      hasDigit⟩, rfl, ?_⟩
    rw [exponent] at fraction
    exact (congrArg ((digits text).1 ++ ·) fraction.symm).trans whole

end Numeral
end Stencil
