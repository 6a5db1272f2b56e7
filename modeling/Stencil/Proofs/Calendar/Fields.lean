import Mathlib.Data.List.TakeWhile
import Stencil.Proofs.Calendar.Validity
import Stencil.Proofs.Number.Digits
import Stencil.Proofs.Text.Trimming

/-!
# Fields of fixed width

The fields of a date that are filled up with zeros are read back as they were written, whatever
follows them, and so are a date and a time of day that consist of them.
-/

namespace Stencil

open Numeral

namespace PatternField

/-- Numbers with up to so many digits take up that much room when they are filled up with zeros. -/
theorem length_padZeros_ofNat
    {width value : Nat}
    (positive : 0 < width)
    (small : value < 10 ^ width) : (Text.padZeros width (Text.ofNat value)).length = width :=
  Text.length_padZeros (Text.length_ofNat_le positive small)

theorem isDigits_padZeros_ofNat (width value : Nat) :
    IsDigits (Text.padZeros width (Text.ofNat value)) :=
  fun _ => Text.isDigit_of_mem_padZeros fun _ => Text.isDigit_of_mem_ofNat

theorem digitsValue_padZeros_ofNat (width value : Nat) :
    digitsValue (Text.padZeros width (Text.ofNat value)) = value :=
  (digitsValue_padZeros width _).trans (digitsValue_ofNat value)

theorem isDigits_twoDigits (value : Nat) : IsDigits (twoDigits value) :=
  isDigits_padZeros_ofNat 2 value

theorem length_twoDigits {value : Nat} (small : value < 100) : (twoDigits value).length = 2 :=
  length_padZeros_ofNat (by decide) small

theorem twoDigits_ne_nil {value : Nat} (small : value < 100) : twoDigits value ≠ [] :=
  List.ne_nil_of_length_eq_add_one (length_twoDigits small)

theorem yearText_of_nonneg
    {year : Int}
    (nonnegative : 0 ≤ year) : yearText year = Text.padZeros 4 (Text.ofNat year.natAbs) :=
  if_neg (Int.not_lt.mpr nonnegative)

section Year

variable {year : Int} (early : 0 ≤ year)
include early

theorem isDigits_yearText : IsDigits (yearText year) := by
  rw [yearText_of_nonneg early]
  exact isDigits_padZeros_ofNat 4 year.natAbs

theorem digitsValue_yearText : (digitsValue (yearText year) : Int) = year := by
  rw [yearText_of_nonneg early, digitsValue_padZeros_ofNat, Int.natAbs_of_nonneg early]

variable (late : year ≤ 9999)
include late

theorem length_yearText : (yearText year).length = 4 := by
  rw [yearText_of_nonneg early]
  exact length_padZeros_ofNat (by decide) (by omega)

theorem yearText_ne_nil : yearText year ≠ [] :=
  List.ne_nil_of_length_eq_add_one (length_yearText early late)

end Year

end PatternField

namespace DateReader

open PatternField

theorem isDigit_of_mem_head?
    {digits rest : Text}
    (isDigits : IsDigits digits)
    (nonempty : digits ≠ []) : ∀ character ∈ (digits ++ rest).head?, character.isDigit := by
  obtain ⟨first, others, rfl⟩ := List.exists_cons_of_ne_nil nonempty
  intro character same
  obtain rfl := Option.some.inj same
  exact isDigits first List.mem_cons_self

theorem trimStart_eq_self
    {text : Text}
    (starts : ∀ character ∈ text.head?, character.isDigit) : Text.trimStart text = text :=
  Text.dropWhile_isBlank_eq_self fun character first =>
    Text.isBlank_of_isDigit (starts character first)

/-- Digits that use up the limit are read, and nothing of what follows. -/
theorem number?_append
    {digits : Text}
    (isDigits : IsDigits digits)
    (nonempty : digits ≠ [])
    (rest : Text) :
    number? digits.length (digits ++ rest) = some (digitsValue digits, rest) := by
  have leading : leadingDigits digits.length (digits ++ rest) = digits := by
    rw [leadingDigits, List.take_left, List.takeWhile_eq_self_iff.mpr isDigits]
  have some : ¬ digits.isEmpty = true := List.isEmpty_iff.not.mpr nonempty
  unfold number?
  rw [trimStart_eq_self (isDigit_of_mem_head? isDigits nonempty)]
  dsimp only
  rw [leading, if_neg some, List.drop_left]

/-- A year that begins with a digit has no sign. -/
theorem year?_eq
    {text : Text}
    (starts : ∀ character ∈ text.head?, character.isDigit) :
    year? text = (number? 4 text).map fun (year, rest) => ((year : Int), rest) := by
  unfold year?
  rw [trimStart_eq_self starts]
  split
  · exact absurd (starts '-' rfl) (by decide)
  · exact absurd (starts '+' rfl) (by decide)
  · rfl

theorem number?_twoDigits
    {value : Nat}
    (small : value < 100)
    (rest : Text) : number? 2 (twoDigits value ++ rest) = some (value, rest) := by
  have read := number?_append (isDigits_twoDigits value) (twoDigits_ne_nil small) rest
  rwa [length_twoDigits small, twoDigits, digitsValue_padZeros_ofNat] at read

theorem year?_yearText
    {year : Int}
    (early : 0 ≤ year)
    (late : year ≤ 9999)
    (rest : Text) : year? (yearText year ++ rest) = some (year, rest) := by
  have isDigits := isDigits_yearText early
  have nonempty := yearText_ne_nil early late
  have read := number?_append isDigits nonempty rest
  rw [length_yearText early late] at read
  rw [year?_eq (isDigit_of_mem_head? isDigits nonempty), read, Option.map_some]
  exact congrArg (fun number => some (number, rest)) (digitsValue_yearText early)

theorem literal?_cons (character : Char) (rest : Text) :
    literal? character (character :: rest) = some rest := if_pos rfl

end DateReader

/-- A date as its year, month and day between dashes. -/
def Date.text (date : Date) : Text :=
  PatternField.yearText date.year ++
    '-' :: (PatternField.twoDigits date.month ++ '-' :: PatternField.twoDigits date.day)

/-- A time of day as its hour, minute and second between colons. -/
def Moment.timeText (moment : Moment) : Text :=
  PatternField.twoDigits moment.hour ++
    ':' :: (PatternField.twoDigits moment.minute ++ ':' :: PatternField.twoDigits moment.second)

theorem Date.length_text
    {date : Date}
    (valid : date.isValid)
    (early : 0 ≤ date.year)
    (late : date.year ≤ 9999) : date.text.length = 10 := by
  have month := Date.month_le valid
  have day := Date.day_le valid
  simp only [Date.text, List.length_append, List.length_cons,
    PatternField.length_yearText early late,
    PatternField.length_twoDigits (Nat.lt_of_le_of_lt month (by decide)),
    PatternField.length_twoDigits (Nat.lt_of_le_of_lt day (by decide))]

theorem Moment.IsValid.length_timeText
    {moment : Moment}
    (valid : moment.IsValid) : moment.timeText.length = 8 := by
  have hour := valid.hour_lt
  have minute := valid.minute_lt
  have second := valid.second_lt
  simp only [Moment.timeText, List.length_append, List.length_cons,
    PatternField.length_twoDigits (Nat.lt_trans hour (by decide)),
    PatternField.length_twoDigits (Nat.lt_trans minute (by decide)),
    PatternField.length_twoDigits (Nat.lt_trans second (by decide))]

namespace DateReader

/-- A date of four digits a year is read back. -/
theorem date?_text
    {date : Date}
    (valid : date.isValid)
    (early : 0 ≤ date.year)
    (late : date.year ≤ 9999)
    (rest : Text) : date? (date.text ++ rest) = some (date, rest) := by
  have month := Date.month_le valid
  have day := Date.day_le valid
  have made : Date.make? date.year date.month date.day = some date :=
    Date.make?_eq_some_iff.mpr ⟨rfl, valid⟩
  simp only [date?, Date.text, List.append_assoc, List.cons_append, year?_yearText early late,
    literal?_cons, number?_twoDigits (Nat.lt_of_le_of_lt month (by decide)),
    number?_twoDigits (Nat.lt_of_le_of_lt day (by decide)), Option.bind_eq_bind, Option.bind_some,
    made, Option.pure_def]

theorem time?_timeText
    {moment : Moment}
    (valid : moment.IsValid)
    (rest : Text) : time? moment.date (moment.timeText ++ rest) = some (moment, rest) := by
  have hour := valid.hour_lt
  have minute := valid.minute_lt
  have second := valid.second_lt
  simp only [time?, Moment.timeText, List.append_assoc, List.cons_append, literal?_cons,
    number?_twoDigits (Nat.lt_trans hour (by decide)),
    number?_twoDigits (Nat.lt_trans minute (by decide)),
    number?_twoDigits (Nat.lt_trans second (by decide)), Option.bind_eq_bind, Option.bind_some,
    valid.make?_eq, Option.pure_def]

end DateReader
end Stencil
