/-!
# Dates and times

Dates follow the Gregorian rule of leap years, extended to all years.  A moment is a date with a
time of day, without a time zone.
-/

namespace Stencil

/-- Whether a year has a leap day. -/
def isLeapYear (year : Int) : Bool :=
  decide (year % 4 = 0) && (decide (year % 100 ≠ 0) || decide (year % 400 = 0))

/-- Number of days of each month of a year. -/
def monthLengths (leap : Bool) : List Nat :=
  [31, if leap then 29 else 28, 31, 30, 31, 30, 31, 31, 30, 31, 30, 31]

/-- Number of days of a month, counted from one; there are no days in other months. -/
def daysInMonth (year : Int) (month : Nat) : Nat :=
  match month with
  | 0 => 0
  | index + 1 => (monthLengths (isLeapYear year))[index]?.getD 0

/-- A calendar date. -/
structure Date where
  /-- The year. -/
  year : Int
  /-- The month, from 1. -/
  month : Nat
  /-- The day of the month, from 1. -/
  day : Nat
deriving DecidableEq, Repr

namespace Date

/-- First year of the calendar. -/
def firstYear : Int := -262143

/-- Last year of the calendar. -/
def lastYear : Int := 262142

/-- Whether a year, a month and a day are a date of the calendar. -/
def isValid (date : Date) : Bool :=
  decide (firstYear ≤ date.year) && decide (date.year ≤ lastYear) &&
    decide (1 ≤ date.day) && decide (date.day ≤ daysInMonth date.year date.month)

/-- The date of a year, a month and a day. -/
def make? (year : Int) (month day : Nat) : Option Date :=
  if isValid ⟨year, month, day⟩ then some ⟨year, month, day⟩ else none

/-- The month and the day of the month of a day, counted from zero, in the given months; `month` is
the number of the first of them. -/
def monthOfDay (month day : Nat) : List Nat → Nat × Nat
  | [] => (month, day + 1)
  | length :: others =>
    if day < length then (month, day + 1) else monthOfDay (month + 1) (day - length) others

/-- The date a number of days after the first day of the year one.  Four hundred years have a fixed
number of days; inside them the last century, the last four years of a century and the last year of
four are the ones that may be a day longer or shorter. -/
def ofDayNumber? (number : Int) : Option Date :=
  let cycle := number / 146097
  let dayOfCycle := (number % 146097).toNat
  let century := min 3 (dayOfCycle / 36524)
  let dayOfCentury := dayOfCycle - century * 36524
  let quad := dayOfCentury / 1461
  let dayOfQuad := dayOfCentury % 1461
  let yearOfQuad := min 3 (dayOfQuad / 365)
  let dayOfYear := dayOfQuad - yearOfQuad * 365
  let year := 400 * cycle + 100 * century + 4 * quad + yearOfQuad + 1
  let (month, day) := monthOfDay 1 dayOfYear (monthLengths (isLeapYear year))
  make? year month day

/-- Day number of the first day of 1970. -/
def epochDay : Int := 719162

end Date

/-- A date with a time of day. -/
structure Moment where
  /-- The date. -/
  date : Date
  /-- The hour, below 24. -/
  hour : Nat
  /-- The minute, below 60. -/
  minute : Nat
  /-- The second, below 60; a leap second counts as the second before it. -/
  second : Nat
deriving DecidableEq, Repr

namespace Moment

/-- The moment of a date and a time of day, if there is one.  The second 60 is a leap second. -/
def make? (date : Date) (hour minute second : Nat) : Option Moment :=
  if hour < 24 ∧ minute < 60 ∧ second ≤ 60 then
    some ⟨date, hour, minute, min second 59⟩
  else
    none

/-- The moment a number of milliseconds after the start of 1970. -/
def ofMilliseconds? (milliseconds : Int) : Option Moment :=
  let seconds := milliseconds / 1000
  let secondOfDay := (seconds % 86400).toNat
  (Date.ofDayNumber? (Date.epochDay + seconds / 86400)).map fun date =>
    ⟨date, secondOfDay / 3600, secondOfDay / 60 % 60, secondOfDay % 60⟩

end Moment
end Stencil
