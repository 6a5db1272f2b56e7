import Stencil.Calendar.Pattern
import Stencil.Proofs.Calendar.Interchange

/-!
# Moments of the calendar

Whatever a number or a text is read as is a moment of the calendar: its date is one of the calendar
and its time is one of the day.
-/

namespace Stencil

theorem length_le_of_mem_monthLengths
    {leap : Bool}
    {length : Nat}
    (member : length ∈ monthLengths leap) : length ≤ 31 := by
  cases leap
  · exact (by decide : ∀ length ∈ monthLengths false, length ≤ 31) length member
  · exact (by decide : ∀ length ∈ monthLengths true, length ≤ 31) length member

theorem daysInMonth_le (year : Int) (month : Nat) : daysInMonth year month ≤ 31 := by
  cases month with
  | zero => exact Nat.zero_le 31
  | succ index =>
    rw [daysInMonth]
    cases listed : (monthLengths (isLeapYear year))[index]? with
    | none => exact Nat.zero_le 31
    | some length => exact length_le_of_mem_monthLengths (List.mem_of_getElem? listed)

/-- There are days in twelve months only. -/
theorem month_mem_of_daysInMonth_pos
    {year : Int}
    {month : Nat}
    (positive : 0 < daysInMonth year month) : 1 ≤ month ∧ month ≤ 12 := by
  cases month with
  | zero => exact absurd positive (Nat.lt_irrefl 0)
  | succ index =>
    refine ⟨Nat.succ_pos index, Nat.le_of_not_lt fun beyond => ?_⟩
    have count : (monthLengths (isLeapYear year)).length = 12 := rfl
    rw [daysInMonth, List.getElem?_eq_none (by omega)] at positive
    exact absurd positive (Nat.lt_irrefl 0)

namespace Date

variable {date : Date}

theorem isValid_iff :
    date.isValid ↔ ((firstYear ≤ date.year ∧ date.year ≤ lastYear) ∧ 1 ≤ date.day) ∧
      date.day ≤ daysInMonth date.year date.month := by
  simp only [isValid, Bool.and_eq_true, decide_eq_true_iff]

theorem make?_eq_some_iff {year : Int} {month day : Nat} :
    make? year month day = some date ↔ ⟨year, month, day⟩ = date ∧ date.isValid := by
  unfold make?
  split
  · next valid =>
    rw [Option.some.injEq]
    exact ⟨fun same => ⟨same, same ▸ valid⟩, And.left⟩
  · next invalid =>
    refine ⟨nofun, fun both => ?_⟩
    exact absurd (both.1 ▸ both.2) invalid

theorem day_le (valid : date.isValid) : date.day ≤ 31 :=
  Nat.le_trans (isValid_iff.mp valid).2 (daysInMonth_le date.year date.month)

theorem month_le (valid : date.isValid) : date.month ≤ 12 := by
  obtain ⟨⟨-, first⟩, last⟩ := isValid_iff.mp valid
  exact (month_mem_of_daysInMonth_pos (Nat.lt_of_lt_of_le first last)).2

theorem isValid_of_ofDayNumber?
    {number : Int}
    (found : ofDayNumber? number = some date) : date.isValid :=
  (make?_eq_some_iff.mp found).2

end Date

namespace Moment

/-- Whether a moment is a time of a day of the calendar. -/
structure IsValid (moment : Moment) : Prop where
  /-- The date is one of the calendar. -/
  date_isValid : moment.date.isValid
  /-- The hours of a day are counted from zero. -/
  hour_lt : moment.hour < 24
  /-- The minutes of an hour are counted from zero. -/
  minute_lt : moment.minute < 60
  /-- The seconds of a minute are counted from zero. -/
  second_lt : moment.second < 60

variable {moment : Moment}

theorem isValid_of_make?
    {date : Date}
    (valid : date.isValid)
    {hour minute second : Nat}
    (made : make? date hour minute second = some moment) : moment.IsValid := by
  unfold make? at made
  split at made
  · next bounds =>
    obtain rfl := Option.some.inj made
    exact ⟨valid, bounds.1, bounds.2.1, Nat.lt_succ_of_le (Nat.min_le_right second 59)⟩
  · exact nomatch made

/-- A time of a day is made of its hour, minute and second. -/
theorem IsValid.make?_eq
    (valid : moment.IsValid) :
    make? moment.date moment.hour moment.minute moment.second = some moment := by
  have second := Nat.le_of_lt_succ valid.second_lt
  rw [make?, if_pos ⟨valid.hour_lt, valid.minute_lt, Nat.le_succ_of_le second⟩,
    Nat.min_eq_left second]

theorem isValid_of_ofMilliseconds?
    {milliseconds : Int}
    (found : ofMilliseconds? milliseconds = some moment) : moment.IsValid := by
  obtain ⟨date, day, rfl⟩ := Option.map_eq_some_iff.mp found
  refine ⟨Date.isValid_of_ofDayNumber? day, ?_, ?_, ?_⟩ <;> dsimp only <;> omega

end Moment

namespace DateReader

variable {text rest : Text} {date : Date} {moment : Moment}

theorem isValid_of_date? (read : date? text = some (date, rest)) : date.isValid := by
  simp only [date?, Option.bind_eq_bind, Option.bind_eq_some_iff, Prod.exists, Option.pure_def,
    Option.some.injEq, Prod.mk.injEq] at read
  obtain ⟨year, -, -, -, -, month, -, -, -, -, day, -, -, _, made, rfl, -⟩ := read
  exact (Date.make?_eq_some_iff.mp made).2

theorem isValid_of_time?
    (valid : date.isValid)
    (read : time? date text = some (moment, rest)) : moment.IsValid := by
  simp only [time?, Option.bind_eq_bind, Option.bind_eq_some_iff, Prod.exists, Option.pure_def,
    Option.some.injEq, Prod.mk.injEq] at read
  obtain ⟨hour, -, -, -, -, minute, -, -, -, -, second, -, -, _, made, rfl, -⟩ := read
  exact Moment.isValid_of_make? valid made

theorem complete?_eq_some_iff {result : α} {read : α × Text} :
    complete? read = some result ↔ read = (result, []) := by
  obtain ⟨found, rest⟩ := read
  cases rest <;> simp [complete?]

theorem isValid_of_interchange? (read : interchange? text = some moment) : moment.IsValid := by
  obtain ⟨year, month, day, date, hour, minute, second, -, madeDate, made, -⟩ :=
    exists_of_interchange? read
  exact Moment.isValid_of_make? (Date.make?_eq_some_iff.mp madeDate).2 made

/-- A date and a time of day that takes up the rest of a text are a moment of the calendar. -/
theorem isValid_of_date?_time?
    {between : Text}
    (day : date? text = some (date, rest))
    (time : (time? date between).bind complete? = some moment) : moment.IsValid := by
  obtain ⟨⟨found, left⟩, timeRead, complete⟩ := Option.bind_eq_some_iff.mp time
  obtain ⟨rfl, -⟩ := Prod.mk.inj (complete?_eq_some_iff.mp complete)
  exact isValid_of_time? (isValid_of_date? day) timeRead

theorem isValid_of_joined? (read : joined? text = some moment) : moment.IsValid := by
  unfold joined? at read
  obtain ⟨⟨date, afterDate⟩, day, read⟩ := Option.bind_eq_some_iff.mp read
  obtain ⟨afterJoint, -, time⟩ := Option.bind_eq_some_iff.mp read
  exact isValid_of_date?_time? day time

theorem isValid_of_spaced? (read : spaced? text = some moment) : moment.IsValid := by
  unfold spaced? at read
  obtain ⟨⟨date, afterDate⟩, day, time⟩ := Option.bind_eq_some_iff.mp read
  exact isValid_of_date?_time? day time

theorem isValid_of_dateOnly? (read : dateOnly? text = some moment) : moment.IsValid := by
  simp only [dateOnly?, Option.map_eq_some_iff, Option.bind_eq_some_iff, Prod.exists] at read
  obtain ⟨date, ⟨_, _, day, complete⟩, rfl⟩ := read
  obtain ⟨rfl, -⟩ := Prod.mk.inj (complete?_eq_some_iff.mp complete)
  exact ⟨isValid_of_date? day, Nat.succ_pos 23, Nat.succ_pos 59, Nat.succ_pos 59⟩

theorem eq_some_or_of_orElse
    {first : Option α}
    {others : Unit → Option α}
    {result : α}
    (found : first.orElse others = some result) :
    first = some result ∨ others () = some result := by
  cases first with
  | none => exact .inr found
  | some _ => exact .inl found

end DateReader

namespace Moment

open DateReader

variable {moment : Moment}

theorem isValid_of_ofText?
    {text : Text}
    (read : ofText? text = some moment) : moment.IsValid := by
  rcases eq_some_or_of_orElse read with interchange | read
  · exact isValid_of_interchange? interchange
  rcases eq_some_or_of_orElse read with joined | read
  · exact isValid_of_joined? joined
  rcases eq_some_or_of_orElse read with spaced | dateOnly
  · exact isValid_of_spaced? spaced
  · exact isValid_of_dateOnly? dateOnly

/-- Every value that stands for a moment stands for one of the calendar. -/
theorem isValid_of_ofValue?
    {value? : Option Value}
    (read : ofValue? value? = some moment) : moment.IsValid := by
  unfold ofValue? at read
  split at read
  · split at read
    · exact isValid_of_ofMilliseconds? read
    · exact nomatch read
  · exact isValid_of_ofText? read
  · exact nomatch read

end Moment
end Stencil
