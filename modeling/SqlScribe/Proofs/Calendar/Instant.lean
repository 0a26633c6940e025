import Mathlib.Tactic.IntervalCases
import SqlScribe.Calendar.Moment

/-!
# Instants

Days are counted by `Date.dayNumber`, which follows the calendar: the day after a day has the next
number (`Date.dayNumber_next`), and no two days have the same (`Date.dayNumber_injective`).  The
count takes years to begin in March, so that a year consists of eleven months with lengths that do
not change and of a last one, February, that makes up for the leap day.

The `instant` of a moment counts its seconds from the start of the count of days.  A moment is
determined by its instant unless its second is the sixtieth, and the moment some minutes earlier has
the instant that is earlier by as many minutes (`Moment.instant_minusMinutes`), on whichever side of
the ends of a day, a month or a year it falls.
-/

namespace SqlScribe.Calendar

/-! ### Years that begin in March -/

/-- The number of the first of March of a year. -/
def yearStart (year : Int) : Int :=
  365 * year + year / 4 - year / 100 + year / 400

/-- The number of days of a year before one of its months, which are counted from March on. -/
def monthStart (month : Nat) : Nat :=
  (153 * month + 2) / 5

/-- A year ends with the February of the next year of the calendar. -/
theorem yearStart_succ (year : Int) :
  yearStart (year + 1) = yearStart year + (monthStart 11 + daysInMonth (year + 1) 2 : Nat)
  := by
  simp only [yearStart, monthStart, daysInMonth, ↓reduceIte]
  split
  · next hleap =>
    simp only [isLeapYear, Bool.and_eq_true, Bool.or_eq_true, decide_eq_true_eq] at hleap
    omega
  · next hleap =>
    simp only [isLeapYear, Bool.and_eq_true, Bool.or_eq_true, decide_eq_true_eq] at hleap
    omega

theorem yearStart_mono {year year' : Int} (h : year ≤ year') :
  yearStart year ≤ yearStart year'
  := by
  unfold yearStart
  omega

theorem monthStart_mono {month month' : Nat} (h : month ≤ month') :
  monthStart month ≤ monthStart month'
  := by
  unfold monthStart
  omega

namespace Date

/-- The year of a day, if years begin in March. -/
def marchYear (d : Date) : Int :=
  if d.month ≤ 2 then d.year - 1 else d.year

/-- The number of months between March and the month of a day. -/
def marchMonth (d : Date) : Nat :=
  if d.month ≤ 2 then d.month + 9 else d.month - 3

theorem dayNumber_eq (d : Date) :
  d.dayNumber = yearStart d.marchYear + (monthStart d.marchMonth + d.day - 1 : Nat)
  := rfl

/-- All months but February have their length between their starts. -/
theorem monthStart_marchMonth_succ (d : Date) (h : d.month ≠ 2) :
  monthStart (d.marchMonth + 1) = monthStart d.marchMonth + daysInMonth d.year d.month
  := by
  obtain ⟨year, month, day, hmonth, hday⟩ := d
  obtain ⟨hlower, hupper⟩ := hmonth
  simp only at h
  simp only [marchMonth, monthStart]
  interval_cases month <;> simp_all [daysInMonth]

/-- The first day after a month that is not February has the number that comes after the numbers of
the days of the month. -/
theorem dayNumber_of_nextMonth {d d' : Date} (h : d.month ≠ 2) (hyear : d'.marchYear = d.marchYear)
    (hmonth : d'.marchMonth = d.marchMonth + 1) (hday : d'.day = 1)
    (hlast : d.day = daysInMonth d.year d.month) :
  d'.dayNumber = d.dayNumber + 1
  := by
  have hlength := d.monthStart_marchMonth_succ h
  have hpos := d.day_valid.1
  rw [dayNumber_eq, dayNumber_eq, hyear, hmonth, hday, hlength, hlast]
  omega

/-- The day after a day has the next number. -/
theorem dayNumber_next (d : Date) :
  d.next.dayNumber = d.dayNumber + 1
  := by
  have hday := d.day_valid
  have hmonth := d.month_valid
  unfold next
  split
  · -- The month goes on.
    simp only [dayNumber_eq, marchYear, marchMonth]
    omega
  · next hlast =>
    have hlast : d.day = daysInMonth d.year d.month := by omega
    split
    · by_cases hfebruary : d.month = 2
      · -- The first of March comes after the last of February.
        have hyear := yearStart_succ (d.year - 1)
        rw [Int.sub_add_cancel] at hyear
        have hstart : monthStart 0 = 0 := rfl
        rw [dayNumber_eq, dayNumber_eq]
        simp only [marchYear, marchMonth, hfebruary, Nat.reduceAdd, Nat.reduceLeDiff, ↓reduceIte,
          hstart] at hlast ⊢
        omega
      · apply dayNumber_of_nextMonth hfebruary _ _ rfl hlast
        · simp only [marchYear]
          split <;> split <;> omega
        · simp only [marchMonth]
          split <;> split <;> omega
    · -- The first of January comes after the last of December.
      apply dayNumber_of_nextMonth (by omega) _ _ rfl hlast
      · simp only [marchYear]
        split <;> split <;> omega
      · simp only [marchMonth]
        split <;> split <;> omega

/-- The day before a day comes before it. -/
theorem next_previous (d : Date) :
  d.previous.next = d
  := by
  obtain ⟨year, month, day, hmonth, hday⟩ := d
  unfold previous
  split
  · next h =>
    simp only [next, Nat.sub_add_cancel hday.1, hday.2, ↓reduceDIte]
  · next hfirst =>
    simp only at hfirst
    have hone : day = 1 := by omega
    subst hone
    split
    · next h =>
      have hlast : ¬ daysInMonth year (month - 1) + 1 ≤ daysInMonth year (month - 1) := by omega
      simp only [next, hlast, ↓reduceDIte, Nat.sub_add_cancel hmonth.1, hmonth.2]
    · next h =>
      simp only at h
      have hjanuary : month = 1 := by omega
      subst hjanuary
      simp [next, daysInMonth]

/-- The day before a day has the number before. -/
theorem dayNumber_previous (d : Date) :
  d.previous.dayNumber = d.dayNumber - 1
  := by
  have h := d.previous.dayNumber_next
  rw [next_previous] at h
  omega

/-- The days of a month come before the next month. -/
theorem day_lt_of_marchMonth_lt {d d' : Date} (h : d.marchMonth < d'.marchMonth) :
  monthStart d.marchMonth + d.day ≤ monthStart d'.marchMonth
  := by
  have hupper : d'.marchMonth ≤ 11 := by
    have := d'.month_valid
    unfold marchMonth
    split <;> omega
  have hmonth : d.month ≠ 2 := by
    intro hfebruary
    have heleven : d.marchMonth = 11 := by simp [marchMonth, hfebruary]
    omega
  have hlength := d.monthStart_marchMonth_succ hmonth
  have hmono := monthStart_mono (show d.marchMonth + 1 ≤ d'.marchMonth from h)
  have hday := d.day_valid.2
  omega

/-- The days of a year come before the next year. -/
theorem dayNumber_lt_yearStart (d : Date) :
  d.dayNumber < yearStart (d.marchYear + 1)
  := by
  have hnext := yearStart_succ d.marchYear
  have hday := d.day_valid
  rw [dayNumber_eq]
  by_cases hmonth : d.month = 2
  · have hyear : d.marchYear + 1 = d.year := by
      simp [marchYear, hmonth]
    have heleven : d.marchMonth = 11 := by simp [marchMonth, hmonth]
    rw [hyear] at hnext ⊢
    rw [hmonth] at hday
    rw [heleven]
    omega
  · have hlength := d.monthStart_marchMonth_succ hmonth
    have hbound : d.marchMonth + 1 ≤ 11 := by
      have := d.month_valid
      unfold marchMonth
      split <;> omega
    have hmono := monthStart_mono hbound
    omega

theorem yearStart_le_dayNumber (d : Date) :
  yearStart d.marchYear ≤ d.dayNumber
  := by
  rw [dayNumber_eq]
  omega

/-- Days with the same number are the same. -/
theorem dayNumber_injective {d d' : Date} (h : d.dayNumber = d'.dayNumber) :
  d = d'
  := by
  have hyear : d.marchYear = d'.marchYear := by
    rcases lt_trichotomy d.marchYear d'.marchYear with hlt | heq | hlt
    · have hmono := yearStart_mono (show d.marchYear + 1 ≤ d'.marchYear from hlt)
      have hbefore := d.dayNumber_lt_yearStart
      have hafter := d'.yearStart_le_dayNumber
      omega
    · exact heq
    · have hmono := yearStart_mono (show d'.marchYear + 1 ≤ d.marchYear from hlt)
      have hbefore := d'.dayNumber_lt_yearStart
      have hafter := d.yearStart_le_dayNumber
      omega
  rw [dayNumber_eq, dayNumber_eq, hyear] at h
  have hday := d.day_valid
  have hday' := d'.day_valid
  have hmonth : d.marchMonth = d'.marchMonth := by
    rcases lt_trichotomy d.marchMonth d'.marchMonth with hlt | heq | hlt
    · have hbefore := day_lt_of_marchMonth_lt hlt
      omega
    · exact heq
    · have hbefore := day_lt_of_marchMonth_lt hlt
      omega
  have hsame : d.month = d'.month ∧ d.year = d'.year := by
    have := d.month_valid
    have := d'.month_valid
    simp only [marchYear, marchMonth] at hyear hmonth
    split at hyear <;> split at hyear <;> simp_all <;> omega
  obtain ⟨year, month, day, _, _⟩ := d
  obtain ⟨year', month', day', _, _⟩ := d'
  obtain ⟨rfl, rfl⟩ := hsame
  simp only [hmonth] at h hday hday'
  congr 1
  omega

end Date

namespace Moment

/-- The number of seconds of a moment, from the start of the first of March of year zero on. -/
def instant (m : Moment) : Int :=
  86400 * m.date.dayNumber + (60 * m.minuteOfDay + m.second : Nat)

/-- Moments with the same instant are the same, unless a second is the sixtieth. -/
theorem eq_of_instant_eq {m m' : Moment} (hm : m.second < 60) (hm' : m'.second < 60)
    (h : m.instant = m'.instant) :
  m = m'
  := by
  obtain ⟨date, hour, minute, second, hhour, hminute, _⟩ := m
  obtain ⟨date', hour', minute', second', hhour', hminute', _⟩ := m'
  simp only [instant, minuteOfDay] at hm hm' h
  have hdate : date = date' := by
    apply Date.dayNumber_injective
    omega
  subst hdate
  congr 1 <;> omega

theorem minuteOfDay_lt (m : Moment) :
  m.minuteOfDay < 1440
  := by
  have hhour := m.hour_valid
  have hminute := m.minute_valid
  unfold minuteOfDay
  omega

theorem instant_atMinute (date : Date) {minute second : Nat} (h : minute < 1440)
    (hs : second ≤ 60) :
  (atMinute date minute h second hs).instant
    = 86400 * date.dayNumber + (60 * minute + second : Nat)
  := by
  simp only [instant, atMinute, minuteOfDay]
  omega

/-- The moment some minutes earlier has the instant that is earlier by as many minutes. -/
theorem instant_minusMinutes (m : Moment) {minutes : Int} (h : -1440 < minutes ∧ minutes < 1440) :
  (m.minusMinutes minutes).instant = m.instant - 60 * minutes
  := by
  have hminute := m.minuteOfDay_lt
  simp only [minusMinutes]
  rw [instant_atMinute, instant]
  split
  · rw [Date.dayNumber_previous]
    omega
  · split
    · rw [Date.dayNumber_next]
      omega
    · omega

end Moment

end SqlScribe.Calendar
