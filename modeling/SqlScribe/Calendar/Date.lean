/-!
# Calendar dates

Dates of the Gregorian calendar, continued to all years before and after its introduction;
the year before year one is year zero.  A date has a month of the year and a day of that
month, so every `Date` is a day.  `Date.next` and `Date.previous` are the neighbouring
days, and `Date.dayNumber` counts the days from the first of March of year zero.
-/

namespace SqlScribe.Calendar

/-- Whether a year has a day between the last of February and the first of March. -/
def isLeapYear (year : Int) : Bool :=
  year % 4 = 0 && (year % 100 ≠ 0 || year % 400 = 0)

/-- The number of days of a month. -/
def daysInMonth (year : Int) (month : Nat) : Nat :=
  if month = 2 then (if isLeapYear year then 29 else 28)
  else if month = 4 ∨ month = 6 ∨ month = 9 ∨ month = 11 then 30
  else 31

theorem one_le_daysInMonth (year : Int) (month : Nat) :
  1 ≤ daysInMonth year month
  := by
  unfold daysInMonth
  repeat' split
  all_goals decide

/-- A day of the calendar. -/
structure Date where
  /-- The year. -/
  year : Int
  /-- The month, from one on. -/
  month : Nat
  /-- The day of the month, from one on. -/
  day : Nat
  /-- The month is one of the twelve. -/
  month_valid : 1 ≤ month ∧ month ≤ 12
  /-- The month has the day. -/
  day_valid : 1 ≤ day ∧ day ≤ daysInMonth year month
  deriving Repr, DecidableEq

namespace Date

/-- The date of a year, a month and a day, if there is one. -/
def ofParts? (year : Int) (month day : Nat) : Option Date :=
  if h : (1 ≤ month ∧ month ≤ 12) ∧ (1 ≤ day ∧ day ≤ daysInMonth year month) then
    some ⟨year, month, day, h.1, h.2⟩
  else none

/-- The day after a day. -/
def next (d : Date) : Date :=
  if h : d.day + 1 ≤ daysInMonth d.year d.month then
    ⟨d.year, d.month, d.day + 1, d.month_valid, by omega, h⟩
  else if h : d.month + 1 ≤ 12 then
    ⟨d.year, d.month + 1, 1, ⟨by omega, h⟩, Nat.le_refl 1, one_le_daysInMonth _ _⟩
  else ⟨d.year + 1, 1, 1, by decide, Nat.le_refl 1, one_le_daysInMonth _ _⟩

/-- The day before a day. -/
def previous (d : Date) : Date :=
  if h : 2 ≤ d.day then
    ⟨d.year, d.month, d.day - 1, d.month_valid, by omega, by have := d.day_valid; omega⟩
  else if h : 2 ≤ d.month then
    ⟨d.year, d.month - 1, daysInMonth d.year (d.month - 1),
      ⟨by omega, by have := d.month_valid; omega⟩, one_le_daysInMonth _ _, Nat.le_refl _⟩
  else ⟨d.year - 1, 12, 31, by decide, by decide, by simp [daysInMonth]⟩

/-- The number of a day, counted from the first of March of year zero.  The years are taken
to begin in March, so that the leap day is the last one of a year. -/
def dayNumber (d : Date) : Int :=
  let year := if d.month ≤ 2 then d.year - 1 else d.year
  let month := if d.month ≤ 2 then d.month + 9 else d.month - 3
  365 * year + year / 4 - year / 100 + year / 400 + ((153 * month + 2) / 5 + d.day - 1 : Nat)

end Date

end SqlScribe.Calendar
