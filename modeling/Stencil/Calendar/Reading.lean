import Stencil.Calendar.Date
import Stencil.Number.Numeral
import Stencil.Text.Blank

/-!
# Reading dates

Four notations are tried in turn: the interchange notation with an offset, a date and a time joined
by a `T`, the two separated by blanks, and a date alone.  A reader takes what it needs from the
front of a text and hands on the rest.
-/

namespace Stencil
namespace DateReader

/-- The rest of a text after a given character. -/
def literal? (expected : Char) : Text → Option Text
  | [] => none
  | character :: rest => if character = expected then some rest else none

/-- The rest of a text after one of several characters. -/
def oneOf? (expected : List Char) : Text → Option Text
  | [] => none
  | character :: rest => if character ∈ expected then some rest else none

/-- The number of exactly two digits, and the rest. -/
def twoDigits? : Text → Option (Nat × Text)
  | first :: second :: rest =>
    if first.isDigit && second.isDigit then
      some (Numeral.digitsValue [first, second], rest)
    else
      none
  | _ => none

/-- The number of exactly four digits, and the rest. -/
def fourDigits? (text : Text) : Option (Nat × Text) :=
  (twoDigits? text).bind fun (high, afterHigh) =>
    (twoDigits? afterHigh).map fun (low, rest) => (100 * high + low, rest)

/-- The digits at the front of a text, `limit` at most. -/
def leadingDigits (limit : Nat) (text : Text) : Text := (text.take limit).takeWhile Char.isDigit

/-- The number of one or more digits, `limit` at most, after any blanks, and the rest. -/
def number? (limit : Nat) (text : Text) : Option (Nat × Text) :=
  let unpadded := Text.trimStart text
  let digits := leadingDigits limit unpadded
  if digits.isEmpty then
    none
  else
    some (Numeral.digitsValue digits, unpadded.drop digits.length)

/-- A year after any blanks, and the rest: up to four digits, or a sign and any digits. -/
def year? (text : Text) : Option (Int × Text) :=
  match Text.trimStart text with
  | '-' :: rest =>
    let digits := leadingDigits rest.length rest
    if digits.isEmpty then
      none
    else
      some (-(Numeral.digitsValue digits : Int), rest.drop digits.length)
  | '+' :: rest =>
    let digits := leadingDigits rest.length rest
    if digits.isEmpty then
      none
    else
      some ((Numeral.digitsValue digits : Int), rest.drop digits.length)
  | unsigned => (number? 4 unsigned).map fun (year, rest) => ((year : Int), rest)

/-- A date, and the rest. -/
def date? (text : Text) : Option (Date × Text) := do
  let (year, text) ← year? text
  let text ← literal? '-' text
  let (month, text) ← number? 2 text
  let text ← literal? '-' text
  let (day, text) ← number? 2 text
  let date ← Date.make? year month day
  return (date, text)

/-- A time of day on a date, and the rest. -/
def time? (date : Date) (text : Text) : Option (Moment × Text) := do
  let (hour, text) ← number? 2 text
  let text ← literal? ':' text
  let (minute, text) ← number? 2 text
  let text ← literal? ':' text
  let (second, text) ← number? 2 text
  let moment ← Moment.make? date hour minute second
  return (moment, text)

/-- What was read, when nothing is left over. -/
def complete? : α × Text → Option α
  | (result, []) => some result
  | _ => none

/-- The rest of a text after a point and digits, if there is a point. -/
def skipFraction? : Text → Option Text
  | '.' :: rest =>
    let digits := rest.takeWhile Char.isDigit
    if digits.isEmpty then none else some (rest.drop digits.length)
  | text => some text

/-- Whether a whole text is an offset of less than a day from universal time. -/
def isOffset : Text → Bool
  | ['Z'] => true
  | ['z'] => true
  | sign :: rest =>
    let offset := do
      let (hours, rest) ← twoDigits? rest
      let rest ← literal? ':' rest
      let (minutes, rest) ← twoDigits? rest
      if rest.isEmpty && hours < 24 && minutes < 60 then some (hours, minutes) else none
    (sign = '+' || sign = '-' || sign = '\u2212') && offset.isSome
  | [] => false

/-- The local time of a text in the interchange notation: fields of fixed width, a fraction of a
second that is dropped, and an offset. -/
def interchange? (text : Text) : Option Moment := do
  let (year, text) ← fourDigits? text
  let text ← literal? '-' text
  let (month, text) ← twoDigits? text
  let text ← literal? '-' text
  let (day, text) ← twoDigits? text
  let text ← oneOf? ['T', 't', ' '] text
  let (hour, text) ← twoDigits? text
  let text ← literal? ':' text
  let (minute, text) ← twoDigits? text
  let text ← literal? ':' text
  let (second, text) ← twoDigits? text
  let text ← skipFraction? text
  let date ← Date.make? year month day
  let moment ← Moment.make? date hour minute second
  if isOffset text then some moment else none

/-- The moment of a text that joins a date and a time by a `T`. -/
def joined? (text : Text) : Option Moment := do
  let (date, text) ← date? text
  let text ← literal? 'T' text
  (time? date text).bind complete?

/-- The moment of a text that separates a date and a time by blanks. -/
def spaced? (text : Text) : Option Moment := do
  let (date, text) ← date? text
  (time? date (Text.trimStart text)).bind complete?

/-- The first moment of the date that a text holds. -/
def dateOnly? (text : Text) : Option Moment :=
  ((date? text).bind complete?).map fun date => ⟨date, 0, 0, 0⟩

end DateReader

/-- The moment that a text stands for, blanks around it aside. -/
def Moment.ofText? (text : Text) : Option Moment :=
  let trimmed := Text.trim text
  (DateReader.interchange? trimmed).orElse fun _ =>
    (DateReader.joined? trimmed).orElse fun _ =>
      (DateReader.spaced? trimmed).orElse fun _ => DateReader.dateOnly? trimmed

end Stencil
