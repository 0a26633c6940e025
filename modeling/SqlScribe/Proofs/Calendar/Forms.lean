import Mathlib.Data.List.Induction
import SqlScribe.Proofs.Calendar.Mask

/-!
# The forms of timestamps

What the readers of timestamps take off a text.  A number of fixed width is so many digits, and a
loose one is at most so many, after any blank characters; dates and times are read part by part.  A
number of fixed width is read loosely as well, and hence a date or a time is.

A moment is read in the first of four forms that fits the text, but no text has two of them
(`readMoment?_eq_some_iff`).  After the date they differ: nothing comes after it in one form, and in
the others a letter, or blank characters, or an offset at the end, which is more than a time.
-/

namespace SqlScribe.Calendar

open Number Text

variable {text rest : List Char} {width : Nat}

/-! ### Numbers -/

theorem isBlank_of_isDigit {c : Char} (h : c.isDigit = true) :
  isBlank c = false
  := by
  have hcode : 0x30 ≤ c.toNat ∧ c.toNat ≤ 0x39 := Char.isDigit_iff_toNat.mp h
  apply Bool.eq_false_iff.mpr
  intro hblank
  simp only [isBlank, blankRuns, List.any_cons, List.any_nil, Bool.or_false, Bool.or_eq_true,
    Bool.and_eq_true, decide_eq_true_eq] at hblank
  omega

theorem skipCharacter_eq_some_iff {c : Char} :
  skipCharacter c text = some rest ↔ text = c :: rest
  := by
  cases text with
  | nil => simp [skipCharacter]
  | cons d text =>
    by_cases h : c = d
    · simp [skipCharacter, h]
    · simp [skipCharacter, h, Ne.symm h]

/-- Digits are the leading ones of a text up to a width if there are as many or if another character
follows. -/
theorem takeWhile_take_append {digits : List Char} (hdigits : ∀ c ∈ digits, c.isDigit = true)
    (hlength : digits.length ≤ width)
    (hrest : digits.length = width ∨ ∀ c ∈ rest.head?, c.isDigit = false) :
  ((digits ++ rest).take width).takeWhile Char.isDigit = digits
  := by
  have hnone : (rest.take (width - digits.length)).takeWhile Char.isDigit = [] := by
    rcases hrest with heq | hhead
    · rw [heq, Nat.sub_self, List.take_zero, List.takeWhile_nil]
    · cases rest with
      | nil => simp
      | cons c rest =>
        cases width - digits.length with
        | zero => simp
        | succ count =>
          have hc := hhead c rfl
          simp [hc]
  rw [List.take_append, List.take_of_length_le hlength, List.takeWhile_append_of_pos hdigits, hnone,
    List.append_nil]

/-- The leading digits of a text up to a width stand at its start, and they are as many as the width
or another character follows. -/
theorem takeWhile_take (width : Nat) (text : List Char) :
  ∃ rest, text = (text.take width).takeWhile Char.isDigit ++ rest
    ∧ ((text.take width).takeWhile Char.isDigit).length ≤ width
    ∧ (((text.take width).takeWhile Char.isDigit).length = width
      ∨ ∀ c ∈ rest.head?, c.isDigit = false)
  := by
  induction width generalizing text with
  | zero => use text; simp
  | succ width ih =>
    cases text with
    | nil => use []; simp
    | cons c text =>
      by_cases hc : c.isDigit = true
      · obtain ⟨rest, htext, hlength, hrest⟩ := ih text
        use rest
        rw [List.take_succ_cons, List.takeWhile_cons, if_pos hc, List.cons_append, ← htext,
          List.length_cons, Nat.add_right_cancel_iff]
        use rfl, Nat.succ_le_succ hlength
      · use c :: text
        simp [hc]

theorem readDigits_eq_some_iff {n : Nat} :
  readDigits width text = some (n, rest)
    ↔ ∃ digits, text = digits ++ rest ∧ IsDigits digits ∧ digits.length ≤ width
      ∧ (digits.length = width ∨ ∀ c ∈ rest.head?, c.isDigit = false) ∧ ofDigits digits = n
  := by
  constructor
  · intro h
    obtain ⟨rest', htext, hlength, hrest⟩ := takeWhile_take width text
    have hall : ∀ c ∈ (text.take width).takeWhile Char.isDigit, c.isDigit = true :=
      List.all_eq_true.mp List.all_takeWhile
    simp only [readDigits] at h
    generalize (text.take width).takeWhile Char.isDigit = digits at *
    subst htext
    split at h
    · contradiction
    · next hne =>
      rw [List.drop_left] at h
      cases h
      use digits, rfl, ⟨by simpa using hne, hall⟩, hlength, hrest
  · rintro ⟨digits, rfl, hdigits, hlength, hrest, rfl⟩
    have htake := takeWhile_take_append hdigits.all hlength hrest
    have hne : digits.isEmpty = false := by simpa using hdigits.ne_nil
    simp only [readDigits, htake, hne, Bool.false_eq_true, ↓reduceIte, List.drop_left]

theorem readExactly_eq_some_iff {n : Nat} :
  readExactly width text = some (n, rest)
    ↔ ∃ digits, text = digits ++ rest ∧ IsPadded width n digits
  := by
  constructor
  · intro h
    obtain ⟨rest', htext, -, -⟩ := takeWhile_take width text
    have hall : ∀ c ∈ (text.take width).takeWhile Char.isDigit, c.isDigit = true :=
      List.all_eq_true.mp List.all_takeWhile
    simp only [readExactly] at h
    generalize (text.take width).takeWhile Char.isDigit = digits at *
    subst htext
    split at h
    · next hlength =>
      subst hlength
      rw [List.drop_left] at h
      cases h
      use digits, rfl, rfl, hall
    · contradiction
  · rintro ⟨digits, rfl, rfl, hall, hvalue⟩
    obtain rfl := Int.ofNat_inj.mp hvalue
    have htake : ((digits ++ rest).take digits.length).takeWhile Char.isDigit = digits :=
      takeWhile_take_append hall (Nat.le_refl _) (Or.inl rfl)
    simp only [readExactly, htake, ↓reduceIte, List.drop_left]

/-- A number is less than the power of ten with as many zeros as it has digits. -/
theorem ofDigits_lt {digits : List Char} (h : ∀ c ∈ digits, c.isDigit = true) :
  ofDigits digits < Nat.pow 10 digits.length
  := by
  induction digits using List.reverseRecOn with
  | nil => decide
  | append_singleton digits c ih =>
    have hc : 0x30 ≤ c.toNat ∧ c.toNat ≤ 0x39 := Char.isDigit_iff_toNat.mp (h c (by simp))
    have hdigits := ih fun d hd => h d (List.mem_append_left _ hd)
    have hzero : '0'.toNat = 0x30 := rfl
    have hpower : Nat.pow 10 (digits.length + 1) = 10 * Nat.pow 10 digits.length :=
      Nat.mul_comm _ _
    rw [ofDigits, List.foldl_append, ← ofDigits, List.length_append, List.length_singleton, hpower]
    simp only [List.foldl_cons, List.foldl_nil]
    omega

theorem lt_of_readExactly {n : Nat} (h : readExactly width text = some (n, rest)) :
  n < Nat.pow 10 width
  := by
  obtain ⟨digits, -, rfl, hall, hvalue⟩ := readExactly_eq_some_iff.mp h
  rw [← Int.ofNat_inj.mp hvalue]
  apply ofDigits_lt hall

/-! ### Dates and times -/

namespace Date

theorem ofParts?_eq_some_iff {year : Int} {month day : Nat} {date : Date} :
  ofParts? year month day = some date ↔ date.year = year ∧ date.month = month ∧ date.day = day
  := by
  unfold ofParts?
  constructor
  · intro h
    split at h
    · cases h
      use rfl, rfl
    · contradiction
  · rintro ⟨rfl, rfl, rfl⟩
    rw [dif_pos ⟨date.month_valid, date.day_valid⟩]

end Date

theorem Moment.ofParts?_eq_some_iff {date : Date} {hour minute second : Nat} {m : Moment} :
  ofParts? date hour minute second = some m
    ↔ m.date = date ∧ m.hour = hour ∧ m.minute = minute ∧ m.second = second
  := by
  unfold ofParts?
  constructor
  · intro h
    split at h
    · cases h
      use rfl, rfl, rfl
    · contradiction
  · rintro ⟨rfl, rfl, rfl, rfl⟩
    rw [dif_pos ⟨m.hour_valid, m.minute_valid, m.second_valid⟩]

theorem readFixedDate_eq_some_iff {date : Date} :
  readFixedDate text = some (date, rest)
    ↔ ∃ (year : Nat) (rest₁ rest₂ : List Char), readExactly 4 text = some (year, '-' :: rest₁)
      ∧ readExactly 2 rest₁ = some (date.month, '-' :: rest₂)
      ∧ readExactly 2 rest₂ = some (date.day, rest) ∧ date.year = year
  := by
  simp only [readFixedDate, Option.bind_eq_bind, Option.bind_eq_some_iff, Prod.exists,
    skipCharacter_eq_some_iff, Date.ofParts?_eq_some_iff, Option.pure_def, Option.some.injEq,
    Prod.mk.injEq]
  constructor
  · rintro ⟨year, _, hyear, rest₁, rfl, _, _, hmonth, rest₂, rfl, _, _, hday, _, ⟨hy, rfl, rfl⟩,
      rfl, rfl⟩
    use year, rest₁, rest₂
  · rintro ⟨year, rest₁, rest₂, hyear, hmonth, hday, hy⟩
    exact ⟨year, _, hyear, rest₁, rfl, _, _, hmonth, rest₂, rfl, _, _, hday, date, ⟨hy, rfl, rfl⟩,
      rfl, rfl⟩

theorem readDate_eq_some_iff {date : Date} :
  readDate text = some (date, rest)
    ↔ ∃ rest₁ rest₂, readYear text = some (date.year, '-' :: rest₁)
      ∧ readLoose rest₁ = some (date.month, '-' :: rest₂)
      ∧ readLoose rest₂ = some (date.day, rest) ∧ isReadableYear date.year = true
  := by
  simp only [readDate, Option.bind_eq_bind, Option.bind_eq_some_iff, Prod.exists,
    skipCharacter_eq_some_iff, Option.ite_none_right_eq_some, Date.ofParts?_eq_some_iff,
    Option.pure_def, Option.some.injEq, Prod.mk.injEq]
  constructor
  · rintro ⟨_, _, hyear, rest₁, rfl, _, _, hmonth, rest₂, rfl, _, _, hday, hreadable, _,
      ⟨rfl, rfl, rfl⟩, rfl, rfl⟩
    use rest₁, rest₂
  · rintro ⟨rest₁, rest₂, hyear, hmonth, hday, hreadable⟩
    exact ⟨_, _, hyear, rest₁, rfl, _, _, hmonth, rest₂, rfl, _, _, hday, hreadable, date,
      ⟨rfl, rfl, rfl⟩, rfl, rfl⟩

/-- Reads a time, on a date, with a reader for its numbers. -/
def readTimeBy (number : Scan Nat) (date : Date) : Scan Moment := fun text => do
  let (hour, rest) ← number text
  let rest ← skipCharacter ':' rest
  let (minute, rest) ← number rest
  let rest ← skipCharacter ':' rest
  let (second, rest) ← number rest
  let rest ← skipFraction rest
  let moment ← Moment.ofParts? date hour minute second
  return (moment, rest)

theorem readFixedTime_eq_readTimeBy :
  readFixedTime = readTimeBy (readExactly 2)
  := rfl

theorem readTime_eq_readTimeBy :
  readTime = readTimeBy readLoose
  := rfl

theorem readTimeBy_eq_some_iff {number : Scan Nat} {date : Date} {m : Moment} :
  readTimeBy number date text = some (m, rest)
    ↔ m.date = date ∧ ∃ rest₁ rest₂ rest₃, number text = some (m.hour, ':' :: rest₁)
      ∧ number rest₁ = some (m.minute, ':' :: rest₂)
      ∧ number rest₂ = some (m.second, rest₃) ∧ skipFraction rest₃ = some rest
  := by
  simp only [readTimeBy, Option.bind_eq_bind, Option.bind_eq_some_iff, Prod.exists,
    skipCharacter_eq_some_iff, Moment.ofParts?_eq_some_iff, Option.pure_def, Option.some.injEq,
    Prod.mk.injEq]
  constructor
  · rintro ⟨_, _, hhour, rest₁, rfl, _, _, hminute, rest₂, rfl, _, rest₃, hsecond, _, hfraction, _,
      ⟨hdate, rfl, rfl, rfl⟩, rfl, rfl⟩
    use hdate, rest₁, rest₂, rest₃
  · rintro ⟨hdate, rest₁, rest₂, rest₃, hhour, hminute, hsecond, hfraction⟩
    exact ⟨_, _, hhour, rest₁, rfl, _, _, hminute, rest₂, rfl, _, rest₃, hsecond, rest, hfraction,
      m, ⟨hdate, rfl, rfl, rfl⟩, rfl, rfl⟩

theorem date_of_readFixedTime {date : Date} {m : Moment}
    (h : readFixedTime date text = some (m, rest)) :
  m.date = date
  := by
  rw [readFixedTime_eq_readTimeBy] at h
  exact (readTimeBy_eq_some_iff.mp h).1

theorem date_of_readTime {date : Date} {m : Moment} (h : readTime date text = some (m, rest)) :
  m.date = date
  := by
  rw [readTime_eq_readTimeBy] at h
  exact (readTimeBy_eq_some_iff.mp h).1

theorem readWithOffset?_eq_some_iff {m : Moment} {offset : Int} :
  readWithOffset? text = some (m, offset)
    ↔ ∃ (date : Date) (rest₁ rest₂ rest₃ : List Char), readFixedDate text = some (date, rest₁)
      ∧ skipSeparator rest₁ = some rest₂ ∧ readFixedTime date rest₂ = some (m, rest₃)
      ∧ readOffset rest₃ = some (offset, [])
  := by
  simp only [readWithOffset?, Option.bind_eq_bind, Option.bind_eq_some_iff, Prod.exists,
    Option.ite_none_right_eq_some, List.isEmpty_iff, Option.some.injEq, Prod.mk.injEq]
  constructor
  · rintro ⟨date, rest₁, hdate, rest₂, hseparator, _, rest₃, htime, _, _, hoffset, rfl, rfl, rfl⟩
    use date, rest₁, rest₂, rest₃
  · rintro ⟨date, rest₁, rest₂, rest₃, hdate, hseparator, htime, hoffset⟩
    exact ⟨date, rest₁, hdate, rest₂, hseparator, m, rest₃, htime, offset, [], hoffset, rfl, rfl,
      rfl⟩

theorem readWithout?_eq_some_iff {separator : List Char → Option (List Char)} {m : Moment} :
  readWithout? separator text = some m
    ↔ ∃ (date : Date) (rest₁ rest₂ : List Char), readDate text = some (date, rest₁)
      ∧ separator rest₁ = some rest₂ ∧ readTime date rest₂ = some (m, [])
  := by
  simp only [readWithout?, Option.bind_eq_bind, Option.bind_eq_some_iff, Prod.exists,
    Option.ite_none_right_eq_some, List.isEmpty_iff, Option.some.injEq]
  constructor
  · rintro ⟨date, rest₁, hdate, rest₂, hseparator, _, _, htime, rfl, rfl⟩
    use date, rest₁, rest₂
  · rintro ⟨date, rest₁, rest₂, hdate, hseparator, htime⟩
    exact ⟨date, rest₁, hdate, rest₂, hseparator, m, [], htime, rfl, rfl⟩

theorem readDateOnly?_eq_some_iff {m : Moment} :
  readDateOnly? text = some m ↔ ∃ date, readDate text = some (date, []) ∧ m = Moment.midnight date
  := by
  simp only [readDateOnly?, Option.bind_eq_bind, Option.bind_eq_some_iff, Prod.exists,
    Option.ite_none_right_eq_some, List.isEmpty_iff, Option.some.injEq]
  constructor
  · rintro ⟨date, _, hdate, rfl, rfl⟩
    use date, hdate
  · rintro ⟨date, hdate, rfl⟩
    exact ⟨date, [], hdate, rfl, rfl⟩

/-! ### No text has two forms -/

/-- The separator of the form with blank characters. -/
def skipBlanks (text : List Char) : Option (List Char) :=
  some (trimStart text)

theorem trimStart_eq_self (h : ∀ c ∈ text.head?, isBlank c = false) :
  trimStart text = text
  := by
  cases text with
  | nil => rfl
  | cons c text =>
    have hc := h c rfl
    simp [trimStart, hc]

theorem trimStart_trimStart (text : List Char) :
  trimStart (trimStart text) = trimStart text
  := by
  apply trimStart_eq_self
  intro c hc
  have hhead := List.head?_dropWhile_not isBlank text
  rw [show (text.dropWhile isBlank).head? = some c from hc] at hhead
  simpa using hhead

/-- A number of fixed width begins with a digit. -/
theorem isDigit_of_readExactly {n : Nat} (hwidth : 0 < width)
    (h : readExactly width text = some (n, rest)) :
  ∃ c ∈ text.head?, c.isDigit = true
  := by
  obtain ⟨digits, rfl, hlength, hall, -⟩ := readExactly_eq_some_iff.mp h
  cases digits with
  | nil =>
    rw [← hlength] at hwidth
    contradiction
  | cons c digits => use c, rfl, hall c List.mem_cons_self

theorem trimStart_of_isDigit (h : ∃ c ∈ text.head?, c.isDigit = true) :
  trimStart text = text
  := by
  apply trimStart_eq_self
  intro c hc
  obtain ⟨d, hd, hdigit⟩ := h
  obtain rfl := Option.mem_unique hc hd
  apply isBlank_of_isDigit hdigit

theorem readDigits_of_readExactly {n : Nat} (hwidth : 0 < width)
    (h : readExactly width text = some (n, rest)) :
  readDigits width text = some (n, rest)
  := by
  obtain ⟨digits, rfl, hlength, hall, hvalue⟩ := readExactly_eq_some_iff.mp h
  apply readDigits_eq_some_iff.mpr
  have hne : digits ≠ [] := by
    rintro rfl
    rw [← hlength] at hwidth
    contradiction
  use digits, rfl, ⟨hne, hall⟩, Nat.le_of_eq hlength, Or.inl hlength, Int.ofNat_inj.mp hvalue

/-- A number of two digits is read loosely as well. -/
theorem readLoose_of_readExactly {n : Nat} (h : readExactly 2 text = some (n, rest)) :
  readLoose text = some (n, rest)
  := by
  rw [readLoose, trimStart_of_isDigit (isDigit_of_readExactly (by decide) h)]
  apply readDigits_of_readExactly (by decide) h

theorem readYear_of_isDigit (h : ∃ c ∈ text.head?, c.isDigit = true) :
  readYear text = (readDigits 4 text).map fun (n, after) => ((n : Int), after)
  := by
  obtain ⟨c, hc, hdigit⟩ := h
  rw [readYear, trimStart_of_isDigit ⟨c, hc, hdigit⟩]
  split
  · cases hc
    contradiction
  · cases hc
    contradiction
  · rfl

/-- A date of fixed width is read loosely as well. -/
theorem readDate_of_readFixedDate {date : Date} (h : readFixedDate text = some (date, rest)) :
  readDate text = some (date, rest)
  := by
  obtain ⟨year, rest₁, rest₂, hyear, hmonth, hday, hy⟩ := readFixedDate_eq_some_iff.mp h
  apply readDate_eq_some_iff.mpr
  use rest₁, rest₂
  constructor
  · rw [readYear_of_isDigit (isDigit_of_readExactly (by decide) hyear),
      readDigits_of_readExactly (by decide) hyear, hy]
    rfl
  use readLoose_of_readExactly hmonth, readLoose_of_readExactly hday
  have hlt : year < 10000 := lt_of_readExactly hyear
  simp only [isReadableYear, Bool.and_eq_true, decide_eq_true_eq]
  omega

/-- A time of fixed width is read loosely as well. -/
theorem readTime_of_readFixedTime {date : Date} {m : Moment}
    (h : readFixedTime date text = some (m, rest)) :
  readTime date text = some (m, rest)
  := by
  rw [readFixedTime_eq_readTimeBy] at h
  obtain ⟨hdate, rest₁, rest₂, rest₃, hhour, hminute, hsecond, hfraction⟩ :=
    readTimeBy_eq_some_iff.mp h
  rw [readTime_eq_readTimeBy]
  apply readTimeBy_eq_some_iff.mpr
  use hdate, rest₁, rest₂, rest₃, readLoose_of_readExactly hhour, readLoose_of_readExactly hminute,
    readLoose_of_readExactly hsecond

theorem readTime_trimStart (date : Date) (text : List Char) :
  readTime date (trimStart text) = readTime date text
  := by
  have hloose : readLoose (trimStart text) = readLoose text := by
    rw [readLoose, readLoose, trimStart_trimStart]
  rw [readTime, readTime, hloose]

/-- A time begins with a digit, after any blank characters. -/
theorem isDigit_of_readTime {date : Date} {m : Moment} (h : readTime date text = some (m, rest)) :
  ∃ c ∈ (trimStart text).head?, c.isDigit = true
  := by
  rw [readTime_eq_readTimeBy] at h
  obtain ⟨-, rest₁, -, -, hhour, -⟩ := readTimeBy_eq_some_iff.mp h
  obtain ⟨digits, htext, hdigits, -⟩ := readDigits_eq_some_iff.mp hhour
  rw [htext]
  cases digits with
  | nil => exact absurd rfl hdigits.ne_nil
  | cons c digits => use c, rfl, hdigits.all c List.mem_cons_self

/-- No time begins with a letter. -/
theorem readTime_letter {date : Date} {c : Char} (hc : c = 'T' ∨ c = 't') :
  readTime date (c :: text) = none
  := by
  apply Option.eq_none_iff_forall_not_mem.mpr
  rintro ⟨m, rest⟩ h
  obtain ⟨d, hd, hdigit⟩ := isDigit_of_readTime h
  rcases hc with rfl | rfl
  · cases hd
    contradiction
  · cases hd
    contradiction

theorem skipSeparator_eq_some_iff :
  skipSeparator text = some rest ↔ ∃ c, (c = 'T' ∨ c = 't' ∨ c = ' ') ∧ text = c :: rest
  := by
  cases text with
  | nil => simp [skipSeparator]
  | cons c text =>
    simp only [skipSeparator, Option.ite_none_right_eq_some, Bool.or_eq_true, beq_iff_eq,
      Option.some.injEq, List.cons.injEq, or_assoc]
    constructor
    · rintro ⟨hc, rfl⟩
      use c, hc, rfl
    · rintro ⟨_, hc, rfl, rfl⟩
      use hc

/-- What is left of a text with an offset after its date is not read as a time to the end of the
text, whichever separator is taken off. -/
theorem readTime_of_readWithOffset? {m m' : Moment} {offset : Int} {date : Date}
    {separator : List Char → Option (List Char)} {rest' : List Char}
    (hseparator : separator = skipCharacter 'T' ∨ separator = skipBlanks)
    (h : readWithOffset? text = some (m, offset)) (hdate : readDate text = some (date, rest))
    (hrest : separator rest = some rest') :
  readTime date rest' ≠ some (m', [])
  := by
  obtain ⟨date', rest₁, rest₂, rest₃, hdate', hskip, htime, hoffset⟩ :=
    readWithOffset?_eq_some_iff.mp h
  rw [readDate_of_readFixedDate hdate'] at hdate
  cases hdate
  have htime := readTime_of_readFixedTime htime
  -- The offset is left after the time.
  have hne : readTime date rest₂ ≠ some (m', []) := by
    intro hend
    rw [hend] at htime
    cases htime
    contradiction
  obtain ⟨c, hc, rfl⟩ := skipSeparator_eq_some_iff.mp hskip
  rcases hseparator with rfl | rfl
  · obtain ⟨-, rfl⟩ := List.cons.inj (skipCharacter_eq_some_iff.mp hrest)
    exact hne
  · cases hrest
    rw [readTime_trimStart]
    rcases hc with rfl | rfl | rfl
    · rw [readTime_letter (Or.inl rfl)]
      simp
    · rw [readTime_letter (Or.inr rfl)]
      simp
    · have hblank : trimStart (' ' :: rest₂) = trimStart rest₂ := rfl
      rwa [← readTime_trimStart, hblank, readTime_trimStart]

/-- A text with a form without an offset has not the form with one. -/
theorem readWithOffset?_of_readWithout? {m : Moment} {separator : List Char → Option (List Char)}
    (hseparator : separator = skipCharacter 'T' ∨ separator = skipBlanks)
    (h : readWithout? separator text = some m) :
  readWithOffset? text = none
  := by
  obtain ⟨date, rest₁, rest₂, hdate, hrest, htime⟩ := readWithout?_eq_some_iff.mp h
  apply Option.eq_none_iff_forall_not_mem.mpr
  rintro ⟨m', offset⟩ h'
  apply readTime_of_readWithOffset? hseparator h' hdate hrest htime

/-- A text with blank characters before the time has not the form with a letter there. -/
theorem readWithout?_of_skipBlanks {m : Moment} (h : readWithout? skipBlanks text = some m) :
  readWithout? (skipCharacter 'T') text = none
  := by
  obtain ⟨date, rest₁, rest₂, hdate, hrest, htime⟩ := readWithout?_eq_some_iff.mp h
  apply Option.eq_none_iff_forall_not_mem.mpr
  intro m' h'
  obtain ⟨date', rest₁', rest₂', hdate', hrest', -⟩ := readWithout?_eq_some_iff.mp h'
  rw [hdate] at hdate'
  cases hdate'
  obtain rfl := skipCharacter_eq_some_iff.mp hrest'
  cases hrest
  rw [readTime_trimStart, readTime_letter (Or.inl rfl)] at htime
  contradiction

/-- A date alone has none of the forms with a time. -/
theorem readWith_of_readDate {date : Date} (h : readDate text = some (date, [])) :
  readWithOffset? text = none ∧ readWithout? (skipCharacter 'T') text = none
    ∧ readWithout? skipBlanks text = none
  := by
  constructor
  · apply Option.eq_none_iff_forall_not_mem.mpr
    rintro ⟨m, offset⟩ h'
    obtain ⟨date', rest₁, rest₂, rest₃, hdate', hskip, -⟩ := readWithOffset?_eq_some_iff.mp h'
    rw [readDate_of_readFixedDate hdate'] at h
    cases h
    contradiction
  constructor
  · apply Option.eq_none_iff_forall_not_mem.mpr
    intro m h'
    obtain ⟨date', rest₁, rest₂, hdate', hskip, -⟩ := readWithout?_eq_some_iff.mp h'
    rw [h] at hdate'
    cases hdate'
    contradiction
  · apply Option.eq_none_iff_forall_not_mem.mpr
    intro m h'
    obtain ⟨date', rest₁, rest₂, hdate', hskip, htime⟩ := readWithout?_eq_some_iff.mp h'
    rw [h] at hdate'
    cases hdate'
    cases hskip
    contradiction

/-- A moment is read from a text in one of the four forms, whichever it is. -/
theorem readMoment?_eq_some_iff {m : Moment} :
  readMoment? text = some m
    ↔ (∃ civil offset, readWithOffset? text = some (civil, offset) ∧ m = civil.minusMinutes offset)
      ∨ readWithout? (skipCharacter 'T') text = some m ∨ readWithout? skipBlanks text = some m
      ∨ readDateOnly? text = some m
  := by
  have hskip : (fun rest => some (trimStart rest)) = skipBlanks := rfl
  simp only [readMoment?, hskip, Option.orElse_eq_orElse, Option.orElse_eq_or,
    Option.or_eq_some_iff, Option.map_eq_some_iff, Option.map_eq_none_iff, Prod.exists]
  constructor
  · rintro (⟨civil, offset, h, rfl⟩ | ⟨-, h | ⟨-, h | ⟨-, h⟩⟩⟩)
    · exact .inl ⟨civil, offset, h, rfl⟩
    · exact .inr (.inl h)
    · exact .inr (.inr (.inl h))
    · exact .inr (.inr (.inr h))
  · -- The forms before the one that reads the text do not read it.
    rintro (⟨civil, offset, h, rfl⟩ | h | h | h)
    · exact .inl ⟨civil, offset, h, rfl⟩
    · exact .inr ⟨readWithOffset?_of_readWithout? (Or.inl rfl) h, .inl h⟩
    · exact .inr ⟨readWithOffset?_of_readWithout? (Or.inr rfl) h,
        .inr ⟨readWithout?_of_skipBlanks h, .inl h⟩⟩
    · obtain ⟨date, hdate, -⟩ := readDateOnly?_eq_some_iff.mp h
      obtain ⟨hoffset, hletter, hblanks⟩ := readWith_of_readDate hdate
      exact .inr ⟨hoffset, .inr ⟨hletter, .inr ⟨hblanks, h⟩⟩⟩

end SqlScribe.Calendar
