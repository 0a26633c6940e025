import SqlScribe.Calendar.Date

/-!
# Moments

A moment is a date with a time of day, to the second.  The minute can have a second of the
number sixty, which a leap second has.  `Moment.minusMinutes` is the moment some minutes
earlier, or later for a negative number, within a day; the second stays what it is.
`Moment.write` is the text of a moment: the year has four digits, or a sign and at least
four digits outside of the years zero to 9999, and everything else has two.
-/

namespace SqlScribe.Calendar

/-- A date with a time of day. -/
structure Moment where
  /-- The date. -/
  date : Date
  /-- The hour, from zero on. -/
  hour : Nat
  /-- The minute, from zero on. -/
  minute : Nat
  /-- The second, from zero on. -/
  second : Nat
  /-- A day has 24 hours. -/
  hour_valid : hour < 24
  /-- An hour has 60 minutes. -/
  minute_valid : minute < 60
  /-- A minute has 60 seconds, or 61. -/
  second_valid : second ≤ 60
  deriving Repr, DecidableEq

namespace Moment

/-- The moment of a date, an hour, a minute and a second, if there is one. -/
def ofParts? (date : Date) (hour minute second : Nat) : Option Moment :=
  if h : hour < 24 ∧ minute < 60 ∧ second ≤ 60 then
    some ⟨date, hour, minute, second, h.1, h.2.1, h.2.2⟩
  else none

/-- The first moment of a date. -/
def midnight (date : Date) : Moment :=
  ⟨date, 0, 0, 0, by decide, by decide, by decide⟩

/-- The moment at a minute of a day. -/
def atMinute (date : Date) (minute : Nat) (h : minute < 1440) (second : Nat)
    (hs : second ≤ 60) : Moment :=
  ⟨date, minute / 60, minute % 60, second, by omega, Nat.mod_lt _ (by decide), hs⟩

/-- The minute of the day. -/
def minuteOfDay (m : Moment) : Nat :=
  60 * m.hour + m.minute

/-- The moment that is a number of minutes earlier, for a number of less than a day. -/
def minusMinutes (m : Moment) (minutes : Int) : Moment :=
  let target := (m.minuteOfDay : Int) - minutes
  let date :=
    if target < 0 then m.date.previous else if 1440 ≤ target then m.date.next else m.date
  atMinute date (target % 1440).toNat (by omega) m.second m.second_valid

/-- A number with zeros before it, up to a number of digits. -/
def padded (width n : Nat) : String :=
  let digits := Nat.toDigits 10 n
  String.ofList (List.replicate (width - digits.length) '0' ++ digits)

/-- The text of a year. -/
def writeYear (year : Int) : String :=
  if year < 0 then "-" ++ padded 4 year.natAbs
  else if year ≤ 9999 then padded 4 year.natAbs
  else "+" ++ padded 4 year.natAbs

/-- The text of a moment. -/
def write (m : Moment) : String :=
  writeYear m.date.year ++ "-" ++ padded 2 m.date.month ++ "-" ++ padded 2 m.date.day ++ " "
    ++ padded 2 m.hour ++ ":" ++ padded 2 m.minute ++ ":" ++ padded 2 m.second

end Moment

end SqlScribe.Calendar
