import SqlScribe.Proofs.Number.Numeral
import SqlScribe.Statement.Cell

/-!
# Timestamps and their mask

A mask says how timestamps are laid out: some of its letters stand for the parts of a moment, each
with a fixed number of digits, and all other characters for themselves.  `LaidOut` says that a text
is laid out by a mask, and for which moment.

Normalized timestamps are written for a mask in which the year has four digits and no sign, and the
seconds of a minute go up to 59.  Moments have more: years of any size before and after these, to
which an offset from universal time can lead as well, and the second 60.  These are the only ones
whose texts do not fit the mask (`fitsMask_write_iff`).
-/

namespace SqlScribe.Calendar

open Number

/-! ### Masks -/

/-- A part of a moment that a mask can have. -/
inductive MaskField where
  | year
  | month
  | day
  | hour
  | minute
  | second

/-- How many digits a part of a moment is laid out with. -/
def MaskField.width : MaskField → Nat
  | year => 4
  | _ => 2

/-- The number of a part of a moment. -/
def Moment.part (m : Moment) : MaskField → Int
  | .year => m.date.year
  | .month => m.date.month
  | .day => m.date.day
  | .hour => m.hour
  | .minute => m.minute
  | .second => m.second

/-- A piece of a mask. -/
inductive MaskPiece where
  /-- Letters that stand for a part of a moment. -/
  | field (f : MaskField)
  /-- A character that stands for itself. -/
  | mark (c : Char)

/-- The number of characters that a piece of a mask is laid out with. -/
def MaskPiece.width : MaskPiece → Nat
  | field f => f.width
  | mark _ => 1

/-- The number of characters that a text has that is laid out by the pieces of a mask. -/
def maskWidth : List MaskPiece → Nat
  | [] => 0
  | piece :: pieces => piece.width + maskWidth pieces

/-- The pieces of a mask. -/
def maskPieces : List Char → List MaskPiece
  | 'Y' :: 'Y' :: 'Y' :: 'Y' :: rest => .field .year :: maskPieces rest
  | 'M' :: 'M' :: rest => .field .month :: maskPieces rest
  | 'D' :: 'D' :: rest => .field .day :: maskPieces rest
  | 'H' :: 'H' :: '2' :: '4' :: rest => .field .hour :: maskPieces rest
  | 'M' :: 'I' :: rest => .field .minute :: maskPieces rest
  | 'S' :: 'S' :: rest => .field .second :: maskPieces rest
  | c :: rest => .mark c :: maskPieces rest
  | [] => []

/-- The digits are those of a number, with zeros before them up to a width. -/
structure IsPadded (width : Nat) (n : Int) (digits : List Char) : Prop where
  length : digits.length = width
  all : ∀ c ∈ digits, c.isDigit = true
  value : (ofDigits digits : Int) = n

/-- The text is a moment laid out by the pieces of a mask. -/
inductive LaidOut (m : Moment) : List MaskPiece → List Char → Prop
  | nil : LaidOut m [] []
  | field {f : MaskField} {pieces : List MaskPiece} {digits text : List Char} :
    IsPadded f.width (m.part f) digits → LaidOut m pieces text →
    LaidOut m (.field f :: pieces) (digits ++ text)
  | mark {c : Char} {pieces : List MaskPiece} {text : List Char} : LaidOut m pieces text →
    LaidOut m (.mark c :: pieces) (c :: text)

/-- The text can be read by a mask: it is laid out by it, for a date of the calendar and a time of
day in which no minute has more than 60 seconds. -/
def FitsMask (mask text : String) : Prop :=
  ∃ m : Moment, m.second < 60 ∧ LaidOut m (maskPieces mask.toList) text.toList

variable {m m' : Moment} {pieces : List MaskPiece} {text : List Char}

theorem LaidOut.length_eq (h : LaidOut m pieces text) :
  text.length = maskWidth pieces
  := by
  induction h with
  | nil => rfl
  | field hdigits _ ih =>
    rw [List.length_append, hdigits.length, ih]
    rfl
  | mark _ ih =>
    rw [List.length_cons, ih, Nat.add_comm]
    rfl

/-- A text that is laid out by a mask determines the parts of the moment that the mask has. -/
theorem LaidOut.part_eq (h : LaidOut m pieces text) (h' : LaidOut m' pieces text) {f : MaskField}
    (hf : .field f ∈ pieces) :
  m.part f = m'.part f
  := by
  induction h with
  | nil => contradiction
  | @field g pieces digits text hdigits _ ih =>
    generalize htext : digits ++ text = whole at h'
    cases h' with
    | @field _ _ digits' text' hdigits' hrest' =>
      have hlength : digits.length = digits'.length :=
        hdigits.length.trans hdigits'.length.symm
      obtain ⟨rfl, rfl⟩ := List.append_inj htext hlength
      cases hf with
      | head => exact hdigits.value.symm.trans hdigits'.value
      | tail _ hf => exact ih hrest' hf
  | mark _ ih =>
    cases h' with
    | mark hrest' =>
      cases hf with
      | tail _ hf => exact ih hrest' hf

/-! ### Moments as they are written -/

theorem toList_padded (width n : Nat) :
  (Moment.padded width n).toList
    = List.replicate (width - (Nat.toDigits 10 n).length) '0' ++ Nat.toDigits 10 n
  := by
  rw [Moment.padded, String.toList_ofList]

/-- Zeros before digits do not change the number. -/
theorem ofDigits_replicate_append (count : Nat) (digits : List Char) :
  ofDigits (List.replicate count '0' ++ digits) = ofDigits digits
  := by
  have hzeros : ofDigits (List.replicate count '0') = 0 := Nat.ofDigitChars_replicate_zero
  rw [ofDigits, List.foldl_append, ← ofDigits, hzeros]
  rfl

theorem isDigits_padded (width n : Nat) :
  IsDigits (Moment.padded width n).toList
  := by
  have hdigits := isDigits_toDigits n
  rw [toList_padded]
  constructor
  · simp [hdigits.ne_nil]
  · intro c hc
    rcases List.mem_append.mp hc with hc | hc
    · apply isDigit_of_mem_replicate hc
    · apply hdigits.all c hc

theorem ofDigits_padded (width n : Nat) :
  ofDigits (Moment.padded width n).toList = n
  := by
  rw [toList_padded, ofDigits_replicate_append, ofDigits_toDigits]

/-- A number with no more digits than a width is written with that width. -/
theorem isPadded_padded (width n : Nat) (hwidth : 0 < width) (h : n < Nat.pow 10 width) :
  IsPadded width n (Moment.padded width n).toList
  := by
  have hlength : (Nat.toDigits 10 n).length ≤ width :=
    (Nat.length_toDigits_le_iff (by decide) hwidth).mpr h
  constructor
  · rw [toList_padded, List.length_append, List.length_replicate]
    omega
  · apply (isDigits_padded width n).all
  · rw [ofDigits_padded]

theorem writeYear_of_isMasked {year : Int} (h : 0 ≤ year ∧ year ≤ 9999) :
  Moment.writeYear year = Moment.padded 4 year.natAbs
  := by
  rw [Moment.writeYear, if_neg (by omega), if_pos h.2]

/-- A year before year zero or after the year 9999 is written with a sign. -/
theorem head?_writeYear {year : Int} (h : ¬ (0 ≤ year ∧ year ≤ 9999)) :
  ∃ c ∈ (Moment.writeYear year).toList.head?, c.isDigit = false
  := by
  unfold Moment.writeYear
  split
  · exact ⟨'-', by simp, by decide⟩
  · rw [if_neg (by omega)]
    exact ⟨'+', by simp, by decide⟩

/-- The pieces of the mask of timestamps. -/
theorem maskPieces_timestampMask :
  maskPieces Statement.Cell.timestampMask.toList
    = [.field .year, .mark '-', .field .month, .mark '-', .field .day, .mark ' ', .field .hour,
      .mark ':', .field .minute, .mark ':', .field .second]
  := by
  rfl

theorem toList_write (m : Moment) :
  m.write.toList
    = (Moment.writeYear m.date.year).toList ++ '-' :: ((Moment.padded 2 m.date.month).toList
      ++ '-' :: ((Moment.padded 2 m.date.day).toList ++ ' ' :: ((Moment.padded 2 m.hour).toList
      ++ ':' :: ((Moment.padded 2 m.minute).toList ++ ':' :: ((Moment.padded 2 m.second).toList
      ++ [])))))
  := by
  simp [Moment.write]

theorem day_lt_hundred (date : Date) :
  date.day < 100
  := by
  have hday := date.day_valid.2
  have hmonth : daysInMonth date.year date.month ≤ 31 := by
    unfold daysInMonth
    grind
  omega

/-- A moment of a year with at most four digits is laid out by the mask. -/
theorem laidOut_write (h : 0 ≤ m.date.year ∧ m.date.year ≤ 9999) :
  LaidOut m (maskPieces Statement.Cell.timestampMask.toList) m.write.toList
  := by
  have hyear : IsPadded 4 m.date.year (Moment.padded 4 m.date.year.natAbs).toList := by
    have hlt : m.date.year.natAbs < 10000 := by omega
    have hpadded := isPadded_padded 4 m.date.year.natAbs (by decide) hlt
    rwa [Int.natAbs_of_nonneg h.1] at hpadded
  have hpair : ∀ n : Nat, n < 100 → IsPadded 2 n (Moment.padded 2 n).toList :=
    fun n => isPadded_padded 2 n (by decide)
  have hmonth := hpair m.date.month (by have := m.date.month_valid; omega)
  have hday := hpair m.date.day (day_lt_hundred m.date)
  have hhour := hpair m.hour (by have := m.hour_valid; omega)
  have hminute := hpair m.minute (by have := m.minute_valid; omega)
  have hsecond := hpair m.second (by have := m.second_valid; omega)
  rw [maskPieces_timestampMask, toList_write, writeYear_of_isMasked h]
  exact .field hyear (.mark (.field hmonth (.mark (.field hday (.mark (.field hhour (.mark
    (.field hminute (.mark (.field hsecond .nil))))))))))

/-- A text that is laid out by the mask begins with a digit. -/
theorem isDigit_of_laidOut (h : LaidOut m (.field .year :: pieces) text) :
  ∀ c ∈ text.head?, c.isDigit = true
  := by
  cases h with
  | @field _ _ digits text hdigits _ =>
    intro c hc
    cases digits with
    | nil => exact absurd hdigits.length (by decide)
    | cons d digits =>
      cases hc
      exact hdigits.all c List.mem_cons_self

/-- A moment is written in the layout of the mask if and only if its year has at most four digits
and no sign, and its second is one of the 60 of a minute. -/
theorem fitsMask_write_iff (m : Moment) :
  FitsMask Statement.Cell.timestampMask m.write
    ↔ (0 ≤ m.date.year ∧ m.date.year ≤ 9999) ∧ m.second < 60
  := by
  constructor
  · rintro ⟨m', hsecond, hlaid⟩
    have hyear : 0 ≤ m.date.year ∧ m.date.year ≤ 9999 := by
      by_cases hyear : 0 ≤ m.date.year ∧ m.date.year ≤ 9999
      · exact hyear
      · obtain ⟨c, hc, hdigit⟩ := head?_writeYear hyear
        have hhead : m.write.toList.head? = some c := by
          rw [toList_write, List.head?_append, hc]
          rfl
        rw [maskPieces_timestampMask] at hlaid
        exact absurd (isDigit_of_laidOut hlaid c hhead) (by simp [hdigit])
    have hpart := hlaid.part_eq (laidOut_write hyear) (f := .second)
      (by rw [maskPieces_timestampMask]; simp)
    simp only [Moment.part, Int.natCast_inj] at hpart
    exact ⟨hyear, by omega⟩
  · rintro ⟨hyear, hsecond⟩
    exact ⟨m, hsecond, laidOut_write hyear⟩

/-- A normalized timestamp is a moment, in the layout of the mask if and only if the year of the
moment, after the offset is taken off, has at most four digits and no sign, and its second is one of
the 60 of a minute.  The layout has 19 characters. -/
theorem normalizeTimestamp?_fitsMask_iff (text s : String) (h : normalizeTimestamp? text = some s) :
  ∃ m, readMoment? (Text.trim text.toList) = some m
    ∧ (FitsMask Statement.Cell.timestampMask s
      ↔ (0 ≤ m.date.year ∧ m.date.year ≤ 9999) ∧ m.second < 60)
    ∧ (FitsMask Statement.Cell.timestampMask s →
      s.length = 19 ∧ LaidOut m (maskPieces Statement.Cell.timestampMask.toList) s.toList)
  := by
  obtain ⟨m, hm, rfl⟩ := Option.map_eq_some_iff.mp h
  use m, hm, fitsMask_write_iff m
  intro hfits
  have hlaid := laidOut_write ((fitsMask_write_iff m).mp hfits).1
  refine ⟨?_, hlaid⟩
  rw [← String.length_toList, hlaid.length_eq, maskPieces_timestampMask]
  rfl

/-- An offset that leads into the next year. -/
theorem normalizeTimestamp?_fitsMask_newYear :
  normalizeTimestamp? " 1999-12-31T23:30:59.9-00:30" = some "2000-01-01 00:00:59"
    ∧ FitsMask Statement.Cell.timestampMask "2000-01-01 00:00:59"
  := by
  have hread :
      normalizeTimestamp? " 1999-12-31T23:30:59.9-00:30" = some "2000-01-01 00:00:59" := by
    decide +kernel
  obtain ⟨m, hm, hfits, -⟩ := normalizeTimestamp?_fitsMask_iff _ _ hread
  have hmoment : (readMoment? (Text.trim " 1999-12-31T23:30:59.9-00:30".toList)).any
      (fun m => decide ((0 ≤ m.date.year ∧ m.date.year ≤ 9999) ∧ m.second < 60)) = true := by
    decide +kernel
  rw [hm] at hmoment
  exact ⟨hread, hfits.mpr (by simpa using hmoment)⟩

/-- A leap second, and offsets that lead out of the years with four digits, to year zero less one and
to the year ten thousand. -/
theorem normalizeTimestamp?_not_fitsMask :
  (normalizeTimestamp? "2016-12-31T23:59:60Z" = some "2016-12-31 23:59:60"
      ∧ ¬ FitsMask Statement.Cell.timestampMask "2016-12-31 23:59:60")
    ∧ (normalizeTimestamp? "0000-01-01T00:00:00+01:00" = some "-0001-12-31 23:00:00"
      ∧ ¬ FitsMask Statement.Cell.timestampMask "-0001-12-31 23:00:00")
    ∧ (normalizeTimestamp? "9999-12-31T23:30:00-01:00" = some "+10000-01-01 00:30:00"
      ∧ ¬ FitsMask Statement.Cell.timestampMask "+10000-01-01 00:30:00")
  := by
  let leap : Moment :=
    ⟨⟨2016, 12, 31, by decide, by decide⟩, 23, 59, 60, by decide, by decide, by decide⟩
  let before : Moment :=
    ⟨⟨-1, 12, 31, by decide, by decide⟩, 23, 0, 0, by decide, by decide, by decide⟩
  let after : Moment :=
    ⟨⟨10000, 1, 1, by decide, by decide⟩, 0, 30, 0, by decide, by decide, by decide⟩
  have hleap : leap.write = "2016-12-31 23:59:60" := by decide +kernel
  have hbefore : before.write = "-0001-12-31 23:00:00" := by decide +kernel
  have hafter : after.write = "+10000-01-01 00:30:00" := by decide +kernel
  rw [← hleap, ← hbefore, ← hafter, fitsMask_write_iff, fitsMask_write_iff, fitsMask_write_iff]
  decide +kernel

end SqlScribe.Calendar
