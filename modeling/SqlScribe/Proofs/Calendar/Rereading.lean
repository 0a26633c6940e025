import SqlScribe.Proofs.Calendar.Spelling
import SqlScribe.Statement.Insert

/-!
# Normalized timestamps are read back

A moment is written in the form with blank characters between the date and the time, and it is read
back from there (`readMoment?_write`): a year has a sign if it has not four digits, and a second can
be the sixtieth.  The year must be one of those that are read.  This holds of all moments that are
read: the years of texts with a sign are tested, and the year of a text with an offset has four
digits and is moved by one at most.

Hence a normalized timestamp stays as it is when it is normalized again, and rows that give it back
to the columns they were generated for are inserted by the same statements
(`normalizeTimestamp?_idempotent`).
-/

namespace SqlScribe.Calendar

open Number Text

variable {text rest : List Char} {m : Moment}

/-! ### Numbers that are written -/

/-- A blank character can come before a number. -/
theorem IsLoose.cons {f : MaskField} {n : Int} {c : Char} {number : List Char}
    (h : IsLoose f n number rest) (hc : isBlank c = true) :
  IsLoose f n (c :: number) rest
  := by
  cases h with
  | @unsigned f n blanks digits rest hblanks hdigits hlength hrest hvalue =>
    have hblanks' : ∀ d ∈ c :: blanks, isBlank d = true := List.forall_mem_cons.mpr ⟨hc, hblanks⟩
    apply IsLoose.unsigned hblanks' hdigits hlength hrest hvalue
  | @signed c' sign n blanks digits rest hblanks hsign hdigits hrest hvalue =>
    have hblanks' : ∀ d ∈ c :: blanks, isBlank d = true := List.forall_mem_cons.mpr ⟨hc, hblanks⟩
    apply IsLoose.signed hblanks' hsign hdigits hrest hvalue

/-- A number of two digits is spelled by itself. -/
theorem isLoose_padded {f : MaskField} {n : Nat} (hwidth : f.width = 2) (h : n < 100)
    (rest : List Char) :
  IsLoose f n (Moment.padded 2 n).toList rest
  := by
  have hlength : (Moment.padded 2 n).toList.length = f.width := by
    rw [hwidth, (isPadded_padded 2 n (by decide) h).length]
  have hvalue : (ofDigits (Moment.padded 2 n).toList : Int) = n := by rw [ofDigits_padded]
  rw [← List.nil_append (Moment.padded 2 n).toList]
  apply IsLoose.unsigned (by simp) (isDigits_padded 2 n) (Nat.le_of_eq hlength) (Or.inl hlength)
    hvalue

/-- A year is spelled with a sign or without. -/
theorem isLoose_writeYear (year : Int) (rest : List Char) :
  IsLoose .year year (Moment.writeYear year).toList ('-' :: rest)
  := by
  have hnone : ∀ c ∈ ([] : List Char), isBlank c = true := by simp
  have hdigits := isDigits_padded 4 year.natAbs
  have hvalue := ofDigits_padded 4 year.natAbs
  have hrest : ∀ c ∈ ('-' :: rest).head?, c.isDigit = false := by
    rintro c ⟨⟩
    decide
  unfold Moment.writeYear
  split
  · rw [String.toList_append]
    apply IsLoose.signed hnone (Or.inr ⟨rfl, rfl⟩) hdigits hrest
    omega
  · split
    · have hlt : year.natAbs < 10000 := by omega
      have hlength := (isPadded_padded 4 year.natAbs (by decide) hlt).length
      apply IsLoose.unsigned (f := .year) hnone hdigits (Nat.le_of_eq hlength) (Or.inl hlength)
      omega
    · rw [String.toList_append]
      apply IsLoose.signed hnone (Or.inl ⟨rfl, rfl⟩) hdigits hrest
      omega

/-! ### Years that are read -/

theorem Date.year_previous (d : Date) :
  d.year - 1 ≤ d.previous.year ∧ d.previous.year ≤ d.year
  := by
  have hless : d.year - 1 ≤ d.year := Int.sub_le_self d.year (by decide)
  unfold previous
  split
  · use hless, Int.le_refl d.year
  · split
    · use hless, Int.le_refl d.year
    · use Int.le_refl (d.year - 1)

theorem Date.year_next (d : Date) :
  d.year ≤ d.next.year ∧ d.next.year ≤ d.year + 1
  := by
  have hmore : d.year ≤ d.year + 1 := Int.le_add_of_nonneg_right (by decide)
  unfold next
  split
  · use Int.le_refl d.year
  · split
    · use Int.le_refl d.year
    · use hmore, Int.le_refl (d.year + 1)

/-- An offset moves the year by one at most. -/
theorem Moment.year_minusMinutes (m : Moment) (minutes : Int) :
  m.date.year - 1 ≤ (m.minusMinutes minutes).date.year
    ∧ (m.minusMinutes minutes).date.year ≤ m.date.year + 1
  := by
  have hprevious := m.date.year_previous
  have hnext := m.date.year_next
  simp only [minusMinutes, atMinute]
  split
  · omega
  · split <;> omega

/-- The year of a text with an offset has at most four digits and no sign. -/
theorem year_of_readWithOffset? {offset : Int} (h : readWithOffset? text = some (m, offset)) :
  0 ≤ m.date.year ∧ m.date.year ≤ 9999
  := by
  obtain ⟨date, rest₁, rest₂, rest₃, hdate, -, htime, -⟩ := readWithOffset?_eq_some_iff.mp h
  obtain ⟨year, _, _, hyear, -, -, hy⟩ := readFixedDate_eq_some_iff.mp hdate
  have hlt : year < 10000 := lt_of_readExactly hyear
  rw [date_of_readFixedTime htime]
  omega

/-- The year of a moment that is read is one of those that are read. -/
theorem isReadableYear_of_readMoment? (h : readMoment? text = some m) :
  isReadableYear m.date.year = true
  := by
  rcases readMoment?_eq_some_iff.mp h with ⟨civil, offset, hread, rfl⟩ | hread | hread | hread
  · have hyear := year_of_readWithOffset? hread
    have hmoved := civil.year_minusMinutes offset
    simp only [isReadableYear, Bool.and_eq_true, decide_eq_true_eq]
    omega
  · exact (readWithout?_letter_iff.mp hread).1
  · exact (readWithout?_skipBlanks_iff.mp hread).1
  · obtain ⟨date, hdate, rfl⟩ := readDateOnly?_eq_some_iff.mp hread
    exact (readDate_iff_spelledAsDate.mp hdate).1

/-! ### Moments that are written -/

/-- A text has no blank characters around it if its ends are not blank. -/
theorem trim_eq_self (hhead : ∀ c ∈ text.head?, isBlank c = false)
    (hlast : ∀ c ∈ text.getLast?, isBlank c = false) :
  trim text = text
  := by
  rw [← List.head?_reverse] at hlast
  rw [trim, trimStart_eq_self hhead, trimStart_eq_self hlast, List.reverse_reverse]

theorem isBlank_head?_writeYear (year : Int) :
  ∃ c ∈ (Moment.writeYear year).toList.head?, isBlank c = false
  := by
  unfold Moment.writeYear
  split
  · use '-'
    simp [isBlank, blankRuns]
  · split
    · have hdigits := isDigits_padded 4 year.natAbs
      use (Moment.padded 4 year.natAbs).toList.head hdigits.ne_nil
      use List.head?_eq_some_head hdigits.ne_nil
      apply isBlank_of_isDigit (hdigits.all _ (List.head_mem hdigits.ne_nil))
    · use '+'
      simp [isBlank, blankRuns]

/-- A moment is written with no blank characters around it. -/
theorem trim_write (m : Moment) :
  trim m.write.toList = m.write.toList
  := by
  apply trim_eq_self
  · intro c hc
    obtain ⟨d, hd, hblank⟩ := isBlank_head?_writeYear m.date.year
    rw [toList_write, List.head?_append, hd] at hc
    cases hc
    exact hblank
  · intro c hc
    have hdigits := isDigits_padded 2 m.second
    have hlast := List.getLast?_eq_some_getLast hdigits.ne_nil
    rw [Moment.write, String.toList_append, List.getLast?_append, hlast] at hc
    cases hc
    apply isBlank_of_isDigit (hdigits.all _ (List.getLast_mem hdigits.ne_nil))

/-- A moment of a year that is read is written as it is spelled; the space between the date and the
time is before the hour. -/
theorem spelledLoosely_write (h : isReadableYear m.date.year = true) :
  SpelledLoosely [] m m.write.toList
  := by
  have hmonth : m.date.month < 100 := Nat.lt_of_le_of_lt m.date.month_valid.2 (by decide)
  have hhour : m.hour < 100 := Nat.lt_trans m.hour_valid (by decide)
  have hminute : m.minute < 100 := Nat.lt_trans m.minute_valid (by decide)
  have hsecond : m.second < 100 := Nat.lt_of_le_of_lt m.second_valid (by decide)
  have hspace : isBlank ' ' = true := by decide
  have htime : Spells IsLoose m [] timePieces (' ' :: (Moment.padded 2 m.hour).toList
      ++ ':' :: ((Moment.padded 2 m.minute).toList ++ ':' :: ((Moment.padded 2 m.second).toList
      ++ []))) :=
    .field ((isLoose_padded rfl hhour _).cons hspace) (.mark
      (.field (isLoose_padded rfl hminute _) (.mark
      (.field (isLoose_padded rfl hsecond _) .nil))))
  rw [List.cons_append] at htime
  use h, [], Or.inl rfl
  rw [toList_write]
  apply Spells.append_iff.mpr
  exact ⟨_, .field (isLoose_writeYear _ _) (.mark (.field (isLoose_padded rfl hmonth _) (.mark
    (.field (isLoose_padded rfl (day_lt_hundred m.date) _) .nil)))), htime⟩

/-- A moment of a year that is read is read back. -/
theorem readMoment?_write (h : isReadableYear m.date.year = true) :
  readMoment? m.write.toList = some m
  := by
  have hread := readWithout?_skipBlanks_iff.mpr (spelledLoosely_write h)
  exact readMoment?_eq_some_iff.mpr (.inr (.inr (.inl hread)))

/-- A normalized timestamp is normalized to itself. -/
theorem normalizeTimestamp?_self {text s : String} (h : normalizeTimestamp? text = some s) :
  normalizeTimestamp? s = some s
  := by
  obtain ⟨m, hm, rfl⟩ := Option.map_eq_some_iff.mp h
  rw [normalizeTimestamp?, trim_write, readMoment?_write (isReadableYear_of_readMoment? hm)]
  rfl

/-! ### Rows that give timestamps back -/

/-- A row has the values of another one for some fields, except that texts for columns with a
calendar date can be replaced by the timestamps that they are normalized to. -/
def GivesBack (fields : List Field) (row row' : Row) : Prop :=
  ∀ f ∈ fields, row'.get? f.name = row.get? f.name
    ∨ ∃ text s, f.type.isTemporal = true ∧ normalizeTimestamp? text = some s
      ∧ row.get? f.name = some (.text text) ∧ row'.get? f.name = some (.text s)

open Statement

/-- A timestamp is in the cell of a text that is normalized to it and in its own. -/
theorem ofValue_of_normalizeTimestamp? {t : ColumnType} {text s : String}
    (ht : t.isTemporal = true) (h : normalizeTimestamp? text = some s) :
  Cell.ofValue .oracle t (some (.text text)) = .timestamp s
  := by
  have hnumeric : t.isNumeric = false := by
    cases t <;> first | rfl | contradiction
  have hboolean : (t == .boolean) = false := by
    cases t <;> first | rfl | contradiction
  simp [Cell.ofValue, Value.isNullLike, Cell.ofWritable, hnumeric, hboolean, Cell.ofText, ht,
    Value.display, h]

theorem cellsOf_of_givesBack {fields : List Field} {row row' : Row}
    (h : GivesBack fields row row') :
  cellsOf .oracle fields row' = cellsOf .oracle fields row
  := by
  apply List.map_congr_left
  intro f hf
  rcases h f hf with hsame | ⟨text, s, ht, hs, hrow, hrow'⟩
  · rw [hsame]
  · rw [hrow, hrow', ofValue_of_normalizeTimestamp? ht hs,
      ofValue_of_normalizeTimestamp? ht (normalizeTimestamp?_self hs)]

/-- A normalized timestamp is normalized to itself, and rows that give such timestamps back are
inserted by the same statements. -/
theorem normalizeTimestamp?_idempotent :
  (∀ text s, normalizeTimestamp? text = some s → normalizeTimestamp? s = some s)
    ∧ ∀ (t : Table) (rows rows' : List Row), t.dialect = .oracle →
      List.Forall₂ (GivesBack t.fields) rows rows' → t.insertSql rows' = t.insertSql rows
  := by
  constructor
  · intro text s
    apply normalizeTimestamp?_self
  · intro t rows rows' hdialect h
    have hcells : rows'.map (cellsOf .oracle t.fields) = rows.map (cellsOf .oracle t.fields) := by
      induction h with
      | nil => rfl
      | cons hrow _ ih => rw [List.map_cons, List.map_cons, cellsOf_of_givesBack hrow, ih]
    rw [Table.insertSql, Table.insertSql, Insert.ofTable, Insert.ofTable, hdialect, hcells]

/-- A leap second that an offset moves out of the years with four digits, and a row that gives it
back. -/
theorem normalizeTimestamp?_idempotent_leapSecond :
  let orders : Table :=
    { name := "orders", fields := [{ name := "placed_at", type := .timestamp }],
      dialect := .oracle }
  let row : Row := { cells := [("placed_at", .text "9999-12-31T23:59:60.5-00:01")] }
  let row' : Row := { cells := [("placed_at", .text "+10000-01-01 00:00:60")] }
  normalizeTimestamp? "9999-12-31T23:59:60.5-00:01" = some "+10000-01-01 00:00:60"
    ∧ normalizeTimestamp? "+10000-01-01 00:00:60" = some "+10000-01-01 00:00:60"
    ∧ orders.insertSql [row'] = orders.insertSql [row]
  := by
  intro orders row row'
  have hread :
      normalizeTimestamp? "9999-12-31T23:59:60.5-00:01" = some "+10000-01-01 00:00:60" := by
    decide +kernel
  have hback : GivesBack orders.fields row row' := by
    intro f hf
    obtain rfl := List.mem_singleton.mp hf
    right
    use "9999-12-31T23:59:60.5-00:01", "+10000-01-01 00:00:60", rfl, hread
    constructor
    · decide +kernel
    · decide +kernel
  use hread, normalizeTimestamp?_idempotent.1 _ _ hread
  apply normalizeTimestamp?_idempotent.2 orders [row] [row'] rfl
  apply List.Forall₂.cons hback List.Forall₂.nil

end SqlScribe.Calendar
