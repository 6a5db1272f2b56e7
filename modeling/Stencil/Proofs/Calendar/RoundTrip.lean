import Mathlib.Data.List.Basic
import Stencil.Proofs.Calendar.Fields
import Stencil.Proofs.Helper.Builtin

/-!
# Dates that are read back

A date that is written with a year of four digits, alone or with a time of day, is read back as it
was.  The notations are told apart by what follows the date: the interchange notation needs at least
an offset more than any of these texts has, and the others differ in what stands between the date
and the time of day.
-/

namespace Stencil

open DateReader PatternField

/-- Trimming leaves a text alone that starts and ends with digits. -/
theorem Text.trim_eq_self_of_isDigits
    {first last text : Text}
    (isDigitsFirst : Numeral.IsDigits first)
    (nonemptyFirst : first ≠ [])
    (isDigitsLast : Numeral.IsDigits last)
    (nonemptyLast : last ≠ [])
    (starts : first <+: text)
    (ends : last <:+ text) : trim text = text := by
  apply trim_eq_self
  · obtain ⟨rest, rfl⟩ := starts
    intro character head
    exact isBlank_of_isDigit (isDigit_of_mem_head? isDigitsFirst nonemptyFirst character head)
  · obtain ⟨front, rfl⟩ := ends
    intro character final
    rw [List.getLast?_append_of_ne_nil front nonemptyLast] at final
    exact isBlank_of_isDigit (isDigitsLast character (List.mem_of_getLast? final))

namespace Moment

/-- The pattern of a date. -/
def dayPattern : Text := "YYYY-MM-DD".toList

/-- The pattern of a date and a time of day with a `T` between them. -/
def joinedPattern : Text := "YYYY-MM-DDTHH:mm:ss".toList

/-- The pattern of a date and a time of day with a blank between them. -/
def spacedPattern : Text := "YYYY-MM-DD HH:mm:ss".toList

theorem read_dayPattern :
    PatternField.read dayPattern =
      [fullYear, .literal '-', paddedMonth, .literal '-', paddedDay] :=
  rfl

theorem read_joinedPattern :
    PatternField.read joinedPattern =
      [fullYear, .literal '-', paddedMonth, .literal '-', paddedDay, .literal 'T',
        paddedHour, .literal ':', .minute, .literal ':', .second] :=
  rfl

theorem read_spacedPattern :
    PatternField.read spacedPattern =
      [fullYear, .literal '-', paddedMonth, .literal '-', paddedDay, .literal ' ',
        paddedHour, .literal ':', .minute, .literal ':', .second] :=
  rfl

theorem format_dayPattern (moment : Moment) : moment.format dayPattern = moment.date.text := by
  simp [format, read_dayPattern, render, Date.text]

theorem format_joinedPattern (moment : Moment) :
    moment.format joinedPattern = moment.date.text ++ 'T' :: moment.timeText := by
  simp [format, read_joinedPattern, render, Date.text, timeText]

theorem format_spacedPattern (moment : Moment) :
    moment.format spacedPattern = moment.date.text ++ ' ' :: moment.timeText := by
  simp [format, read_spacedPattern, render, Date.text, timeText]

section Reading

variable
  {date : Date}
  (valid : date.isValid)
  (early : 0 ≤ date.year)
  (late : date.year ≤ 9999)
include valid early late

/-- A date is read by what follows it: nothing, a `T` and a time of day, or blanks and a time of
day. -/
theorem ofText?_text_append
    {rest : Text}
    (short : rest.length < 10)
    (trimmed : Text.trim (date.text ++ rest) = date.text ++ rest) :
    ofText? (date.text ++ rest) =
      ((literal? 'T' rest).bind fun time => (time? date time).bind complete?).orElse fun _ =>
        ((time? date (Text.trimStart rest)).bind complete?).orElse fun _ =>
          (complete? (date, rest)).map fun date => ⟨date, 0, 0, 0⟩ := by
  have length : (date.text ++ rest).length < 20 := by
    rw [List.length_append, Date.length_text valid early late]
    omega
  have read := date?_text valid early late rest
  rw [ofText?, trimmed, interchange?_eq_none length]
  simp only [joined?, spaced?, dateOnly?, read, Option.bind_eq_bind, Option.bind_some,
    Option.orElse_none]

theorem ofText?_text : ofText? date.text = some ⟨date, 0, 0, 0⟩ := by
  have day : date.day < 100 := Nat.lt_of_le_of_lt (Date.day_le valid) (by decide)
  have trimmed : Text.trim (date.text ++ []) = date.text ++ [] := by
    rw [List.append_nil]
    apply Text.trim_eq_self_of_isDigits (isDigits_yearText early) (yearText_ne_nil early late)
      (isDigits_twoDigits date.day) (twoDigits_ne_nil day)
    · exact List.prefix_append _ _
    · exact ⟨yearText date.year ++ '-' :: (twoDigits date.month ++ ['-']), by simp [Date.text]⟩
  have read := ofText?_text_append valid early late (by decide) trimmed
  rwa [List.append_nil] at read

end Reading

section Reading

variable
  {moment : Moment}
  (valid : moment.IsValid)
  (early : 0 ≤ moment.date.year)
  (late : moment.date.year ≤ 9999)
include valid early late

theorem trim_text_timeText (separator : Char) :
    Text.trim (moment.date.text ++ separator :: moment.timeText) =
      moment.date.text ++ separator :: moment.timeText := by
  have second : moment.second < 100 := Nat.lt_trans valid.second_lt (by decide)
  apply Text.trim_eq_self_of_isDigits (isDigits_yearText early) (yearText_ne_nil early late)
    (isDigits_twoDigits moment.second) (twoDigits_ne_nil second)
  · exact (List.prefix_append _ _).trans (List.prefix_append _ _)
  · refine ⟨moment.date.text ++ separator :: (twoDigits moment.hour ++
      ':' :: (twoDigits moment.minute ++ [':'])), ?_⟩
    simp [timeText]

/-- A time of day after a date is read when the two are parted by a `T` or by a blank. -/
theorem ofText?_text_timeText
    {separator : Char}
    (parting : separator = 'T' ∨ separator = ' ') :
    ofText? (moment.date.text ++ separator :: moment.timeText) = some moment := by
  have short : (separator :: moment.timeText).length < 10 := by
    rw [List.length_cons, valid.length_timeText]
    decide
  have time : time? moment.date moment.timeText = some (moment, []) := by
    have read := time?_timeText valid []
    rwa [List.append_nil] at read
  rw [ofText?_text_append valid.date_isValid early late short
    (trim_text_timeText valid early late separator)]
  rcases parting with rfl | rfl
  · rw [literal?_cons, Option.bind_some, time]
    rfl
  · have hour : moment.hour < 100 := Nat.lt_trans valid.hour_lt (by decide)
    have unpadded : Text.trimStart (' ' :: moment.timeText) = moment.timeText :=
      trimStart_eq_self
        (isDigit_of_mem_head? (isDigits_twoDigits moment.hour) (twoDigits_ne_nil hour))
    rw [unpadded, time]
    rfl

/-- What is written by a pattern of date and time is the same moment when it is read, and what is
written by the pattern of a date is its first moment. -/
theorem ofText?_format
    {pattern : Text}
    (readable : pattern ∈ [dayPattern, joinedPattern, spacedPattern]) :
    ∃ again,
      ofText? (moment.format pattern) = some again ∧
      again.date = moment.date ∧
      (pattern ≠ dayPattern → again = moment) ∧
      again.format pattern = moment.format pattern := by
  rcases List.mem_cons.mp readable with rfl | timed
  · refine ⟨⟨moment.date, 0, 0, 0⟩, ?_, rfl, fun other => absurd rfl other, ?_⟩
    · rw [format_dayPattern, ofText?_text valid.date_isValid early late]
    · rw [format_dayPattern, format_dayPattern]
  · refine ⟨moment, ?_, rfl, fun _ => rfl, rfl⟩
    rcases List.mem_pair.mp timed with rfl | rfl
    · rw [format_joinedPattern, ofText?_text_timeText valid early late (.inl rfl)]
    · rw [format_spacedPattern, ofText?_text_timeText valid early late (.inr rfl)]

end Reading

end Moment

namespace Builtin

open Moment

theorem answer?_formatDate
    {value : Value}
    {moment : Moment}
    (read : ofValue? (some value) = some moment)
    (pattern : Text) :
    answer? "formatDate".toList [value, .string pattern] =
      some (.value (.string (moment.format pattern))) := by
  have listed : ("formatDate".toList, formatArguments) ∈ functions := List.mem_cons_self
  rw [answer?_eq listed, formatArguments, List.head?_cons, read]
  rfl

/-- A date with a year of four digits that is written by a pattern with all its fields is read as
the same date, at the same time of day where the pattern has one, and is written as the same text
again. -/
theorem formatDate_reads_back
    {value : Value}
    {moment : Moment}
    (read : ofValue? (some value) = some moment)
    (early : 0 ≤ moment.date.year)
    (late : moment.date.year ≤ 9999)
    {pattern : Text}
    (readable : pattern ∈ [dayPattern, joinedPattern, spacedPattern]) :
    ∃ text again,
      answer? "formatDate".toList [value, .string pattern] = some (.value (.string text)) ∧
      ofValue? (some (.string text)) = some again ∧
      again.date = moment.date ∧
      (pattern ≠ dayPattern →
        again.hour = moment.hour ∧ again.minute = moment.minute ∧ again.second = moment.second) ∧
      answer? "formatDate".toList [.string text, .string pattern] =
        some (.value (.string text)) := by
  obtain ⟨again, readAgain, sameDate, sameTime, written⟩ :=
    ofText?_format (isValid_of_ofValue? read) early late readable
  have readText : ofValue? (some (.string (moment.format pattern))) = some again := readAgain
  refine ⟨moment.format pattern, again, answer?_formatDate read pattern, readText, sameDate,
    fun timed => ?_, ?_⟩
  · rw [sameTime timed]
    exact ⟨rfl, rfl, rfl⟩
  · rw [answer?_formatDate readText, written]

/-- A leap second with a fraction and an offset is written as the second before it, and stays. -/
theorem formatDate_reads_back_leap_second :
    ∃ text again,
      answer? "formatDate".toList
        [.string "2016-12-31t23:59:60.5-03:00".toList, .string joinedPattern] =
          some (.value (.string text)) ∧
      ofValue? (some (.string text)) = some again ∧
      again.date = ⟨2016, 12, 31⟩ ∧
      (joinedPattern ≠ dayPattern → again.hour = 23 ∧ again.minute = 59 ∧ again.second = 59) ∧
      answer? "formatDate".toList [.string text, .string joinedPattern] =
        some (.value (.string text)) :=
  have read : ofValue? (some (.string "2016-12-31t23:59:60.5-03:00".toList)) =
      some ⟨⟨2016, 12, 31⟩, 23, 59, 59⟩ := by
    decide
  formatDate_reads_back read (by decide) (by decide) (by decide)

end Builtin
end Stencil
