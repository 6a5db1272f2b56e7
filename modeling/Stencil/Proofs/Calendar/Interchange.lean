import Stencil.Calendar.Reading

/-!
# The interchange notation

The readers of fixed width shorten a text by their width.  What they leave of a text in the
interchange notation is its offset, so such a text is longer than any date and time without one.
-/

namespace Stencil
namespace DateReader

variable {text rest : Text}

theorem length_of_oneOf?
    {expected : List Char}
    (read : oneOf? expected text = some rest) : text.length = rest.length + 1 := by
  unfold oneOf? at read
  split at read
  · exact nomatch read
  · split at read
    · rw [← Option.some.inj read, List.length_cons]
    · exact nomatch read

theorem literal?_eq_oneOf? (expected : Char) (text : Text) :
    literal? expected text = oneOf? [expected] text := by
  cases text with
  | nil => rfl
  | cons character rest => simp only [literal?, oneOf?, List.mem_singleton]

theorem length_of_literal?
    {expected : Char}
    (read : literal? expected text = some rest) : text.length = rest.length + 1 :=
  length_of_oneOf? ((literal?_eq_oneOf? expected text).symm.trans read)

theorem length_of_twoDigits?
    {value : Nat}
    (read : twoDigits? text = some (value, rest)) : text.length = rest.length + 2 := by
  unfold twoDigits? at read
  split at read
  · split at read
    · obtain ⟨-, rfl⟩ := Prod.mk.inj (Option.some.inj read)
      rw [List.length_cons, List.length_cons]
    · exact nomatch read
  · exact nomatch read

theorem length_of_fourDigits?
    {value : Nat}
    (read : fourDigits? text = some (value, rest)) : text.length = rest.length + 4 := by
  simp only [fourDigits?, Option.bind_eq_some_iff, Option.map_eq_some_iff, Prod.exists,
    Prod.mk.injEq] at read
  obtain ⟨high, _, highRead, low, _, lowRead, -, rfl⟩ := read
  rw [length_of_twoDigits? highRead, length_of_twoDigits? lowRead]

theorem length_of_skipFraction? (read : skipFraction? text = some rest) :
    rest.length ≤ text.length := by
  unfold skipFraction? at read
  split at read
  · dsimp only at read
    split at read
    · exact nomatch read
    · rw [← Option.some.inj read, List.length_drop, List.length_cons]
      omega
  · exact Nat.le_of_eq (congrArg List.length (Option.some.inj read).symm)

/-- What is read in the interchange notation is a moment of a date, and an offset follows after
nineteen characters at least. -/
theorem exists_of_interchange?
    {moment : Moment}
    (read : interchange? text = some moment) :
    ∃ (year month day : Nat) (date : Date) (hour minute second : Nat) (offset : Text),
      Date.make? year month day = some date ∧
      Moment.make? date hour minute second = some moment ∧
      isOffset offset ∧
      offset.length + 19 ≤ text.length := by
  unfold interchange? at read
  obtain ⟨⟨year, afterYear⟩, yearRead, read⟩ := Option.bind_eq_some_iff.mp read
  obtain ⟨atMonth, firstDash, read⟩ := Option.bind_eq_some_iff.mp read
  obtain ⟨⟨month, afterMonth⟩, monthRead, read⟩ := Option.bind_eq_some_iff.mp read
  obtain ⟨atDay, secondDash, read⟩ := Option.bind_eq_some_iff.mp read
  obtain ⟨⟨day, afterDay⟩, dayRead, read⟩ := Option.bind_eq_some_iff.mp read
  obtain ⟨atHour, separator, read⟩ := Option.bind_eq_some_iff.mp read
  obtain ⟨⟨hour, afterHour⟩, hourRead, read⟩ := Option.bind_eq_some_iff.mp read
  obtain ⟨atMinute, firstColon, read⟩ := Option.bind_eq_some_iff.mp read
  obtain ⟨⟨minute, afterMinute⟩, minuteRead, read⟩ := Option.bind_eq_some_iff.mp read
  obtain ⟨atSecond, secondColon, read⟩ := Option.bind_eq_some_iff.mp read
  obtain ⟨⟨second, afterSecond⟩, secondRead, read⟩ := Option.bind_eq_some_iff.mp read
  obtain ⟨offset, fraction, read⟩ := Option.bind_eq_some_iff.mp read
  obtain ⟨date, madeDate, read⟩ := Option.bind_eq_some_iff.mp read
  obtain ⟨_, made, complete⟩ := Option.bind_eq_some_iff.mp read
  have length : offset.length + 19 ≤ text.length := by
    have := length_of_fourDigits? yearRead
    have := length_of_literal? firstDash
    have := length_of_twoDigits? monthRead
    have := length_of_literal? secondDash
    have := length_of_twoDigits? dayRead
    have := length_of_oneOf? separator
    have := length_of_twoDigits? hourRead
    have := length_of_literal? firstColon
    have := length_of_twoDigits? minuteRead
    have := length_of_literal? secondColon
    have := length_of_twoDigits? secondRead
    have := length_of_skipFraction? fraction
    omega
  split at complete
  · next isOffset =>
    obtain rfl := Option.some.inj complete
    exact ⟨year, month, day, date, hour, minute, second, offset, madeDate, made, isOffset, length⟩
  · exact nomatch complete

theorem length_pos_of_isOffset (offset : isOffset text) : 0 < text.length := by
  cases text with
  | nil => exact nomatch offset
  | cons first rest => exact Nat.succ_pos _

/-- A text of less than twenty characters is not in the interchange notation. -/
theorem interchange?_eq_none (short : text.length < 20) : interchange? text = none := by
  cases read : interchange? text with
  | none => rfl
  | some moment =>
    obtain ⟨-, -, -, -, -, -, -, offset, -, -, isOffset, length⟩ := exists_of_interchange? read
    have := length_pos_of_isOffset isOffset
    omega

end DateReader
end Stencil
