import SqlScribe.Proofs.Calendar.Instant
import SqlScribe.Proofs.Calendar.Spelling

/-!
# Normalized timestamps keep the instant

A text that spells a moment with an offset is normalized to the moment at the same instant in
universal time, and there is only one (`normalizeTimestamp?_keepsInstant`).  A text that spells a
moment without an offset is normalized to this moment, whatever forms are tried before.  In either
case the fraction of a second is dropped.
-/

namespace SqlScribe.Calendar

open Text

variable {text : String} {m civil : Moment} {offset : Int}

theorem normalizeTimestamp?_of_readMoment? (h : readMoment? (trim text.toList) = some m) :
  normalizeTimestamp? text = some m.write
  := by
  rw [normalizeTimestamp?, h]
  rfl

/-- The moment some minutes earlier is the only one with the instant that is earlier by as many
minutes, if the second is one of the 60 of a minute. -/
theorem Moment.instant_eq_iff_minusMinutes (hsecond : civil.second < 60)
    (hoffset : -1440 < offset ∧ offset < 1440) (hm : m.second < 60) :
  m.instant = civil.instant - 60 * offset ↔ m = civil.minusMinutes offset
  := by
  have hearlier : (civil.minusMinutes offset).second < 60 := hsecond
  rw [← civil.instant_minusMinutes hoffset]
  constructor
  · apply Moment.eq_of_instant_eq hm hearlier
  · rintro rfl
    rfl

theorem SpelledWithOffset.bounds {text : List Char} (h : SpelledWithOffset civil offset text) :
  -1440 < offset ∧ offset < 1440
  := by
  obtain ⟨_, _, _, _, _, hzone, _⟩ := h
  apply hzone.bounds

/-- A text that spells a moment with an offset is normalized to the moment at the same instant in
universal time, and no other moment is there unless its second is the sixtieth.  A text that spells
a moment without an offset is normalized to this moment, or to midnight if it is a date.  These are
the texts that have one of the forms of timestamps. -/
theorem normalizeTimestamp?_keepsInstant (text : String) :
  (∀ civil offset, (readWithOffset? (trim text.toList) = some (civil, offset)
        ↔ SpelledWithOffset civil offset (trim text.toList))
      ∧ (SpelledWithOffset civil offset (trim text.toList) → civil.second < 60 →
        ∃ m : Moment, normalizeTimestamp? text = some m.write ∧ m.second < 60
          ∧ ∀ m' : Moment, m'.second < 60 →
            (m'.instant = civil.instant - 60 * offset ↔ m' = m)))
    ∧ (∀ m, (readWithout? (skipCharacter 'T') (trim text.toList) = some m
        ↔ SpelledLoosely [.mark 'T'] m (trim text.toList))
      ∧ (SpelledLoosely [.mark 'T'] m (trim text.toList) →
        normalizeTimestamp? text = some m.write))
    ∧ (∀ m, (readWithout? skipBlanks (trim text.toList) = some m
        ↔ SpelledLoosely [] m (trim text.toList))
      ∧ (SpelledLoosely [] m (trim text.toList) → normalizeTimestamp? text = some m.write))
    ∧ ∀ date, (readDate (trim text.toList) = some (date, [])
        ↔ SpelledAsDate date (trim text.toList))
      ∧ (SpelledAsDate date (trim text.toList) →
        normalizeTimestamp? text = some (Moment.midnight date).write)
  := by
  constructor
  · intro civil offset
    use readWithOffset?_iff_spelledWithOffset
    intro h hsecond
    use civil.minusMinutes offset
    constructor
    · have hread := readWithOffset?_iff_spelledWithOffset.mpr h
      apply normalizeTimestamp?_of_readMoment?
      exact readMoment?_eq_some_iff.mpr (.inl ⟨civil, offset, hread, rfl⟩)
    · use hsecond
      intro m' hm'
      apply Moment.instant_eq_iff_minusMinutes hsecond h.bounds hm'
  constructor
  · intro m
    use readWithout?_letter_iff
    intro h
    apply normalizeTimestamp?_of_readMoment?
    exact readMoment?_eq_some_iff.mpr (.inr (.inl (readWithout?_letter_iff.mpr h)))
  constructor
  · intro m
    use readWithout?_skipBlanks_iff
    intro h
    apply normalizeTimestamp?_of_readMoment?
    exact readMoment?_eq_some_iff.mpr (.inr (.inr (.inl (readWithout?_skipBlanks_iff.mpr h))))
  · intro date
    use readDate_iff_spelledAsDate
    intro h
    have hread := readDateOnly?_eq_some_iff.mpr ⟨date, readDate_iff_spelledAsDate.mpr h, rfl⟩
    apply normalizeTimestamp?_of_readMoment?
    exact readMoment?_eq_some_iff.mpr (.inr (.inr (.inr hread)))

/-- An offset that leads back over the end of a February without a leap day, a time whose parts have
blank characters before them or few digits, a year with a sign, and a date with a leap day. -/
theorem normalizeTimestamp?_keepsInstant_february :
  let civil : Moment :=
    ⟨⟨1900, 3, 1, by decide, by decide⟩, 0, 30, 59, by decide, by decide, by decide⟩
  let early : Moment :=
    ⟨⟨2024, 2, 29, by decide, by decide⟩, 1, 2, 3, by decide, by decide, by decide⟩
  let late : Moment :=
    ⟨⟨12345, 1, 2, by decide, by decide⟩, 23, 59, 60, by decide, by decide, by decide⟩
  let leap : Date := ⟨2024, 2, 29, by decide, by decide⟩
  (SpelledWithOffset civil 60 "1900-03-01 00:30:59.25+01:00".toList
      ∧ normalizeTimestamp? "1900-03-01 00:30:59.25+01:00" = some "1900-02-28 23:30:59"
      ∧ ∃ m : Moment, m.write = "1900-02-28 23:30:59" ∧ m.second < 60
        ∧ m.instant = civil.instant - 3600)
    ∧ (SpelledLoosely [.mark 'T'] early "2024-2-29T 1:2:3.5".toList
      ∧ normalizeTimestamp? "2024-2-29T 1:2:3.5" = some "2024-02-29 01:02:03")
    ∧ (SpelledLoosely [] late "+12345-01-02 23:59:60".toList
      ∧ normalizeTimestamp? "+12345-01-02 23:59:60" = some "+12345-01-02 23:59:60")
    ∧ SpelledAsDate leap "2024-02-29".toList
    ∧ normalizeTimestamp? "2024-02-29" = some "2024-02-29 00:00:00"
  := by
  intro civil early late leap
  have hfirst := (normalizeTimestamp?_keepsInstant "1900-03-01 00:30:59.25+01:00").1 civil 60
  have hsecond := (normalizeTimestamp?_keepsInstant "2024-2-29T 1:2:3.5").2.1 early
  have hthird := (normalizeTimestamp?_keepsInstant "+12345-01-02 23:59:60").2.2.1 late
  have hfourth := (normalizeTimestamp?_keepsInstant "2024-02-29").2.2.2 leap
  rw [show trim "1900-03-01 00:30:59.25+01:00".toList = "1900-03-01 00:30:59.25+01:00".toList by
    decide +kernel] at hfirst
  rw [show trim "2024-2-29T 1:2:3.5".toList = "2024-2-29T 1:2:3.5".toList by decide +kernel,
    show early.write = "2024-02-29 01:02:03" by decide +kernel] at hsecond
  rw [show trim "+12345-01-02 23:59:60".toList = "+12345-01-02 23:59:60".toList by decide +kernel,
    show late.write = "+12345-01-02 23:59:60" by decide +kernel] at hthird
  rw [show trim "2024-02-29".toList = "2024-02-29".toList by decide +kernel,
    show (Moment.midnight leap).write = "2024-02-29 00:00:00" by decide +kernel] at hfourth
  have hcivil := hfirst.1.mp (by decide +kernel)
  have hearly := hsecond.1.mp (by decide +kernel)
  have hlate := hthird.1.mp (by decide +kernel)
  have hleap := hfourth.1.mp (by decide +kernel)
  obtain ⟨m, hm, hm', hinstant⟩ := hfirst.2 hcivil (by decide)
  have hwrite :
      normalizeTimestamp? "1900-03-01 00:30:59.25+01:00" = some "1900-02-28 23:30:59" := by
    decide +kernel
  have hwritten : m.write = "1900-02-28 23:30:59" := by
    rw [hm] at hwrite
    exact Option.some.inj hwrite
  exact ⟨⟨hcivil, hwrite, m, hwritten, hm', (hinstant m hm').mpr rfl⟩, ⟨hearly, hsecond.2 hearly⟩,
    ⟨hlate, hthird.2 hlate⟩, hleap, hfourth.2 hleap⟩

end SqlScribe.Calendar
