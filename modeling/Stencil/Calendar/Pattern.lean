import Stencil.Calendar.Reading
import Stencil.Value.Coercion

/-!
# Writing dates by a pattern

A pattern is read from left to right.  At each place the longest field name counts; every other
character stands for itself.
-/

namespace Stencil

/-- A part of a date pattern. -/
inductive PatternField where
  /-- The year with at least four characters. -/
  | fullYear
  /-- The last two digits of the year. -/
  | shortYear
  /-- The month with two digits. -/
  | paddedMonth
  /-- The month. -/
  | month
  /-- The day with two digits. -/
  | paddedDay
  /-- The day. -/
  | day
  /-- The hour with two digits. -/
  | paddedHour
  /-- The hour. -/
  | hour
  /-- The minute with two digits. -/
  | minute
  /-- The second with two digits. -/
  | second
  /-- A character that stands for itself. -/
  | literal (character : Char)
deriving DecidableEq, Repr

namespace PatternField

/-- The fields of a pattern. -/
def read : Text → List PatternField
  | 'Y' :: 'Y' :: 'Y' :: 'Y' :: rest => fullYear :: read rest
  | 'Y' :: 'Y' :: rest => shortYear :: read rest
  | 'M' :: 'M' :: rest => paddedMonth :: read rest
  | 'M' :: rest => month :: read rest
  | 'D' :: 'D' :: rest => paddedDay :: read rest
  | 'D' :: rest => day :: read rest
  | 'H' :: 'H' :: rest => paddedHour :: read rest
  | 'H' :: rest => hour :: read rest
  | 'm' :: 'm' :: rest => minute :: read rest
  | 's' :: 's' :: rest => second :: read rest
  | character :: rest => literal character :: read rest
  | [] => []

/-- A year with at least four characters, of which a minus sign is one. -/
def yearText (year : Int) : Text :=
  if year < 0 then
    '-' :: Text.padZeros 3 (Text.ofNat year.natAbs)
  else
    Text.padZeros 4 (Text.ofNat year.natAbs)

/-- A number with at least two digits. -/
def twoDigits (value : Nat) : Text := Text.padZeros 2 (Text.ofNat value)

/-- What a field shows of a moment. -/
def render (moment : Moment) : PatternField → Text
  | fullYear => yearText moment.date.year
  | shortYear => twoDigits (moment.date.year % 100).toNat
  | paddedMonth => twoDigits moment.date.month
  | month => Text.ofNat moment.date.month
  | paddedDay => twoDigits moment.date.day
  | day => Text.ofNat moment.date.day
  | paddedHour => twoDigits moment.hour
  | hour => Text.ofNat moment.hour
  | minute => twoDigits moment.minute
  | second => twoDigits moment.second
  | literal character => [character]

end PatternField

namespace Moment

/-- The text of a moment in a pattern. -/
def format (moment : Moment) (pattern : Text) : Text :=
  (PatternField.read pattern).flatMap (PatternField.render moment)

/-- The moment that a value stands for: a number counts milliseconds, a text is read. -/
def ofValue? : Option Value → Option Moment
  | some (.number value) =>
    match value.toDouble with
    | .finite milliseconds => ofMilliseconds? milliseconds.truncate
    | _ => none
  | some (.string text) => ofText? text
  | _ => none

/-- The first argument as a date in the pattern that the second one gives. -/
def formatArguments (arguments : List Value) : Value :=
  match ofValue? arguments.head? with
  | none => .string "Invalid Date".toList
  | some moment =>
    .string (moment.format ((arguments[1]?.map Value.text).getD "YYYY-MM-DD".toList))

end Moment
end Stencil
