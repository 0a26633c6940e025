import Mathlib.Tactic.FinCases
import SqlScribe.Proofs.Calendar.Forms

/-!
# How timestamps are spelled

The readers of timestamps accept exactly the texts that spell a moment.  With an offset the parts
of the moment have a fixed width each, as in a mask (`readWithOffset?_iff_spelledWithOffset`).
Without one they are spelled loosely, with blank characters before a number and fewer digits than
usual (`readWithout?_iff_spelledLoosely`); a number takes as many digits as it can there, so that it
is clear where a day ends that an hour follows.  In both forms a fraction of a second can come at
the end, which is no part of the moment.
-/

namespace SqlScribe.Calendar

open Number Text

/-! ### Moments in a text -/

/-- The text is a moment laid out by the pieces of a mask, and `tail` comes after it.  What can stand
for a number may depend on what comes after the number. -/
inductive Spells (IsNumber : MaskField → Int → List Char → List Char → Prop) (m : Moment)
    (tail : List Char) : List MaskPiece → List Char → Prop
  | nil : Spells IsNumber m tail [] tail
  | field {f : MaskField} {pieces : List MaskPiece} {number rest : List Char} :
    IsNumber f (m.part f) number rest → Spells IsNumber m tail pieces rest →
    Spells IsNumber m tail (.field f :: pieces) (number ++ rest)
  | mark {c : Char} {pieces : List MaskPiece} {rest : List Char} :
    Spells IsNumber m tail pieces rest → Spells IsNumber m tail (.mark c :: pieces) (c :: rest)

namespace Spells

variable {IsNumber : MaskField → Int → List Char → List Char → Prop} {m : Moment}
  {tail text : List Char} {pieces pieces' : List MaskPiece}

theorem nil_iff :
  Spells IsNumber m tail [] text ↔ text = tail
  := by
  constructor
  · rintro ⟨⟩
    rfl
  · rintro rfl
    apply nil

theorem field_iff {f : MaskField} :
  Spells IsNumber m tail (.field f :: pieces) text
    ↔ ∃ number rest, text = number ++ rest ∧ IsNumber f (m.part f) number rest
      ∧ Spells IsNumber m tail pieces rest
  := by
  constructor
  · rintro ⟨⟩
    next number rest hnumber hrest => use number, rest
  · rintro ⟨number, rest, rfl, hnumber, hrest⟩
    apply field hnumber hrest

theorem mark_iff {c : Char} :
  Spells IsNumber m tail (.mark c :: pieces) text
    ↔ ∃ rest, text = c :: rest ∧ Spells IsNumber m tail pieces rest
  := by
  constructor
  · rintro ⟨⟩
    next rest hrest => use rest
  · rintro ⟨rest, rfl, hrest⟩
    apply mark hrest

theorem append_iff :
  Spells IsNumber m tail (pieces ++ pieces') text
    ↔ ∃ rest, Spells IsNumber m rest pieces text ∧ Spells IsNumber m tail pieces' rest
  := by
  induction pieces generalizing text with
  | nil => simp [nil_iff]
  | cons piece pieces ih =>
    cases piece with
    | field f =>
      simp only [List.cons_append, field_iff, ih]
      constructor
      · rintro ⟨number, after, rfl, hnumber, rest, h, h'⟩
        use rest, ⟨number, after, rfl, hnumber, h⟩
      · rintro ⟨rest, ⟨number, after, rfl, hnumber, h⟩, h'⟩
        use number, after, rfl, hnumber, rest
    | mark c =>
      simp only [List.cons_append, mark_iff, ih]
      constructor
      · rintro ⟨after, rfl, rest, h, h'⟩
        use rest, ⟨after, rfl, h⟩
      · rintro ⟨rest, ⟨after, rfl, h⟩, h'⟩
        use after, rfl, rest

end Spells

/-- The parts of a date. -/
def datePieces : List MaskPiece :=
  [.field .year, .mark '-', .field .month, .mark '-', .field .day]

/-- The parts of a time of day. -/
def timePieces : List MaskPiece :=
  [.field .hour, .mark ':', .field .minute, .mark ':', .field .second]

variable {text rest : List Char} {m : Moment}

/-- A time is read if it is spelled, with any numbers that are read. -/
theorem readTimeBy_iff_spells {number : Scan Nat} {date : Date}
    {IsNumber : MaskField → Int → List Char → List Char → Prop}
    (hnumber : ∀ f ∈ [MaskField.hour, .minute, .second], ∀ {text n rest},
      number text = some (n, rest) ↔ ∃ s, text = s ++ rest ∧ IsNumber f n s rest) :
  readTimeBy number date text = some (m, rest)
    ↔ m.date = date ∧ ∃ after, Spells IsNumber m after timePieces text
      ∧ skipFraction after = some rest
  := by
  rw [readTimeBy_eq_some_iff]
  constructor
  · rintro ⟨hdate, rest₁, rest₂, rest₃, hhour, hminute, hsecond, hfraction⟩
    obtain ⟨s₁, rfl, hs₁⟩ := (hnumber .hour (by simp)).mp hhour
    obtain ⟨s₂, rfl, hs₂⟩ := (hnumber .minute (by simp)).mp hminute
    obtain ⟨s₃, rfl, hs₃⟩ := (hnumber .second (by simp)).mp hsecond
    use hdate, rest₃, .field hs₁ (.mark (.field hs₂ (.mark (.field hs₃ .nil))))
  · simp only [timePieces, Spells.field_iff, Spells.mark_iff, Spells.nil_iff]
    rintro ⟨hdate, _, ⟨s₁, _, rfl, hs₁, _, rfl, s₂, _, rfl, hs₂, _, rfl, s₃, rest₃, rfl, hs₃, rfl⟩,
      hfraction⟩
    use hdate, s₂ ++ ':' :: (s₃ ++ rest₃), s₃ ++ rest₃, rest₃
    use (hnumber .hour (by simp)).mpr ⟨s₁, rfl, hs₁⟩,
      (hnumber .minute (by simp)).mpr ⟨s₂, rfl, hs₂⟩,
      (hnumber .second (by simp)).mpr ⟨s₃, rfl, hs₃⟩

/-! ### Fractions and offsets -/

/-- A fraction of a second, or nothing. -/
def IsFraction (s : List Char) : Prop :=
  s = [] ∨ ∃ digits, IsDigits digits ∧ s = '.' :: digits

theorem isFraction_of_skipFraction (h : skipFraction text = some rest) :
  ∃ fraction, text = fraction ++ rest ∧ IsFraction fraction
  := by
  unfold skipFraction at h
  split at h
  · next more =>
    have hall : ∀ c ∈ more.takeWhile Char.isDigit, c.isDigit = true :=
      List.all_eq_true.mp List.all_takeWhile
    have hmore := List.prefix_iff_eq_append.mp (List.takeWhile_prefix (l := more) Char.isDigit)
    simp only at h
    generalize more.takeWhile Char.isDigit = digits at *
    split at h
    · contradiction
    · next hne =>
      cases h
      use '.' :: digits
      constructor
      · rw [List.cons_append, hmore]
      · right
        use digits, ⟨by simpa using hne, hall⟩
  · cases h
    use [], rfl
    left
    rfl

/-- A fraction is taken off a text if no other character of a fraction comes after it. -/
theorem skipFraction_append {fraction : List Char} (h : IsFraction fraction)
    (hrest : ∀ c ∈ rest.head?, c ≠ '.' ∧ c.isDigit = false) :
  skipFraction (fraction ++ rest) = some rest
  := by
  rcases h with rfl | ⟨digits, hdigits, rfl⟩
  · cases rest with
    | nil => rfl
    | cons c rest =>
      have hc := (hrest c rfl).1
      simp [skipFraction, hc]
  · have htake : ((digits ++ rest).take (digits ++ rest).length).takeWhile Char.isDigit = digits :=
      takeWhile_take_append hdigits.all (by simp) (Or.inr fun c hc => (hrest c hc).2)
    have hne : digits.isEmpty = false := by simpa using hdigits.ne_nil
    rw [List.take_length] at htake
    simp only [List.cons_append, skipFraction, htake, hne, Bool.false_eq_true, ↓reduceIte,
      List.drop_left]

theorem skipFraction_eq_some_nil_iff :
  skipFraction text = some [] ↔ IsFraction text
  := by
  constructor
  · intro h
    obtain ⟨fraction, rfl, hfraction⟩ := isFraction_of_skipFraction h
    rwa [List.append_nil]
  · intro h
    have hskip : skipFraction (text ++ []) = some [] := skipFraction_append h (by simp)
    rwa [List.append_nil] at hskip

/-- An offset in minutes from universal time. -/
inductive IsZone : Int → List Char → Prop
  /-- The letter of universal time itself. -/
  | universal {c : Char} : c = 'Z' ∨ c = 'z' → IsZone 0 [c]
  /-- Hours and minutes ahead of universal time, or behind it, with a hyphen or a minus sign. -/
  | shifted {c : Char} {sign : Int} {hours minutes : Nat} {s s' : List Char} :
    c = '+' ∧ sign = 1 ∨ (c = '-' ∨ c = '\u2212') ∧ sign = -1 → hours < 24 ∧ minutes < 60 →
    IsPadded 2 hours s → IsPadded 2 minutes s' →
    IsZone (sign * (60 * hours + minutes : Nat)) (c :: (s ++ ':' :: s'))

/-- An offset is less than a day. -/
theorem IsZone.bounds {offset : Int} {s : List Char} (h : IsZone offset s) :
  -1440 < offset ∧ offset < 1440
  := by
  cases h with
  | universal => decide
  | shifted hsign =>
    rcases hsign with ⟨-, rfl⟩ | ⟨-, rfl⟩
    · omega
    · omega

/-- An offset begins with a letter or a sign. -/
theorem IsZone.head {offset : Int} {s : List Char} (h : IsZone offset s) :
  ∀ c ∈ s.head?, c ≠ '.' ∧ c.isDigit = false
  := by
  intro c hc
  cases h with
  | universal hletter =>
    cases hc
    rcases hletter with rfl | rfl
    · decide
    · decide
  | shifted hsign =>
    cases hc
    rcases hsign with ⟨rfl, -⟩ | ⟨rfl | rfl, -⟩
    · decide
    · decide
    · decide

theorem offsetSign?_eq_some_iff {c : Char} {sign : Int} :
  offsetSign? c = some sign ↔ c = '+' ∧ sign = 1 ∨ (c = '-' ∨ c = '\u2212') ∧ sign = -1
  := by
  unfold offsetSign?
  constructor
  · intro h
    split at h
    · next hplus =>
      cases h
      left
      use beq_iff_eq.mp hplus
    · split at h
      · next hminus =>
        cases h
        right
        rw [Bool.or_eq_true, beq_iff_eq, beq_iff_eq] at hminus
        use hminus
      · contradiction
  · rintro (⟨rfl, rfl⟩ | ⟨rfl | rfl, rfl⟩)
    · rfl
    · rfl
    · rfl

/-- An offset is read off a text if the text begins with it. -/
theorem readOffset_eq_some_iff {offset : Int} :
  readOffset text = some (offset, rest) ↔ ∃ zone, text = zone ++ rest ∧ IsZone offset zone
  := by
  constructor
  · intro h
    cases text with
    | nil => contradiction
    | cons c text =>
      rw [readOffset] at h
      split at h
      · next hletter =>
        cases h
        rw [Bool.or_eq_true, beq_iff_eq, beq_iff_eq] at hletter
        use [c], rfl, IsZone.universal hletter
      · simp only [Option.bind_eq_bind, Option.bind_eq_some_iff, Prod.exists,
          skipCharacter_eq_some_iff, Option.ite_none_right_eq_some, Option.some.injEq,
          Prod.mk.injEq, offsetSign?_eq_some_iff] at h
        obtain ⟨sign, hsign, hours, _, hhours, rest₁, rfl, minutes, _, hminutes, hbounds, rfl,
          rfl⟩ := h
        obtain ⟨s, rfl, hs⟩ := readExactly_eq_some_iff.mp hhours
        obtain ⟨s', rfl, hs'⟩ := readExactly_eq_some_iff.mp hminutes
        use c :: (s ++ ':' :: s')
        constructor
        · simp
        · apply IsZone.shifted hsign hbounds hs hs'
  · rintro ⟨zone, rfl, hzone⟩
    cases hzone with
    | universal hletter => rcases hletter with rfl | rfl <;> rfl
    | @shifted c sign hours minutes s s' hsign hbounds hs hs' =>
      have hletter : (c == 'Z' || c == 'z') = false := by
        rcases hsign with ⟨rfl, -⟩ | ⟨rfl | rfl, -⟩ <;> decide
      have hhours : readExactly 2 (s ++ ':' :: (s' ++ rest)) = some (hours, ':' :: (s' ++ rest)) :=
        readExactly_eq_some_iff.mpr ⟨s, rfl, hs⟩
      have hminutes : readExactly 2 (s' ++ rest) = some (minutes, rest) :=
        readExactly_eq_some_iff.mpr ⟨s', rfl, hs'⟩
      have hskip : skipCharacter ':' (':' :: (s' ++ rest)) = some (s' ++ rest) :=
        skipCharacter_eq_some_iff.mpr rfl
      simp only [List.cons_append, List.append_assoc, readOffset, hletter, Bool.false_eq_true,
        ↓reduceIte, offsetSign?_eq_some_iff.mpr hsign, hhours, hskip, hminutes, hbounds, and_self,
        Option.bind_eq_bind, Option.bind_some]

/-! ### Moments with an offset -/

/-- A number of fixed width. -/
def IsFixed (f : MaskField) (n : Int) (digits _rest : List Char) : Prop :=
  IsPadded f.width n digits

/-- The text spells a moment with parts of fixed width, a fraction and an offset. -/
def SpelledWithOffset (m : Moment) (offset : Int) (text : List Char) : Prop :=
  ∃ separator ∈ ['T', 't', ' '], ∃ fraction zone, IsFraction fraction ∧ IsZone offset zone
    ∧ Spells IsFixed m (fraction ++ zone) (datePieces ++ .mark separator :: timePieces) text

theorem readFixedDate_iff_spells :
  readFixedDate text = some (m.date, rest) ↔ Spells IsFixed m rest datePieces text
  := by
  rw [readFixedDate_eq_some_iff]
  constructor
  · rintro ⟨year, rest₁, rest₂, hyear, hmonth, hday, hy⟩
    obtain ⟨s₁, rfl, hs₁⟩ := readExactly_eq_some_iff.mp hyear
    obtain ⟨s₂, rfl, hs₂⟩ := readExactly_eq_some_iff.mp hmonth
    obtain ⟨s₃, rfl, hs₃⟩ := readExactly_eq_some_iff.mp hday
    rw [← hy] at hs₁
    exact .field hs₁ (.mark (.field hs₂ (.mark (.field hs₃ .nil))))
  · simp only [datePieces, Spells.field_iff, Spells.mark_iff, Spells.nil_iff]
    rintro ⟨s₁, _, rfl, hs₁, _, rfl, s₂, _, rfl, hs₂, _, rfl, s₃, _, rfl, hs₃, rfl⟩
    have hyear : m.date.year = ofDigits s₁ := hs₁.value.symm
    have hs₁ : IsPadded 4 (ofDigits s₁ : Nat) s₁ := ⟨hs₁.length, hs₁.all, rfl⟩
    refine ⟨ofDigits s₁, _, _, readExactly_eq_some_iff.mpr ⟨s₁, rfl, hs₁⟩,
      readExactly_eq_some_iff.mpr ⟨s₂, rfl, hs₂⟩, readExactly_eq_some_iff.mpr ⟨s₃, rfl, hs₃⟩, hyear⟩

theorem readFixedTime_iff_spells {date : Date} :
  readFixedTime date text = some (m, rest)
    ↔ m.date = date ∧ ∃ after, Spells IsFixed m after timePieces text
      ∧ skipFraction after = some rest
  := by
  rw [readFixedTime_eq_readTimeBy]
  apply readTimeBy_iff_spells
  intro f hf text n rest
  have hwidth : f.width = 2 := by fin_cases hf <;> rfl
  rw [readExactly_eq_some_iff]
  simp only [IsFixed, hwidth]

/-- A moment with an offset is read from the texts that spell it. -/
theorem readWithOffset?_iff_spelledWithOffset {offset : Int} :
  readWithOffset? text = some (m, offset) ↔ SpelledWithOffset m offset text
  := by
  simp only [readWithOffset?_eq_some_iff, SpelledWithOffset, Spells.append_iff, Spells.mark_iff]
  constructor
  · rintro ⟨date, rest₁, rest₂, rest₃, hdate, hskip, htime, hoffset⟩
    obtain ⟨rfl, after, htime, hafter⟩ := readFixedTime_iff_spells.mp htime
    obtain ⟨separator, hseparator, rfl⟩ := skipSeparator_eq_some_iff.mp hskip
    obtain ⟨fraction, rfl, hfraction⟩ := isFraction_of_skipFraction hafter
    obtain ⟨zone, rfl, hzone⟩ := readOffset_eq_some_iff.mp hoffset
    rw [List.append_nil] at htime
    use separator, by simpa using hseparator, fraction, zone, hfraction, hzone
    use separator :: rest₂, readFixedDate_iff_spells.mp hdate, rest₂
  · rintro ⟨separator, hseparator, fraction, zone, hfraction, hzone, _, hdate, rest₂, rfl, htime⟩
    use m.date, separator :: rest₂, rest₂, zone, readFixedDate_iff_spells.mpr hdate
    constructor
    · apply skipSeparator_eq_some_iff.mpr
      use separator, by simpa using hseparator
    constructor
    · apply readFixedTime_iff_spells.mpr
      use rfl, fraction ++ zone, htime, skipFraction_append hfraction hzone.head
    · apply readOffset_eq_some_iff.mpr
      use zone, (List.append_nil zone).symm

/-! ### Moments without an offset -/

/-- A number that is a part of a moment, after any blank characters.  It has no more digits than the
part is laid out with, and no digit comes after fewer; a year with a sign has all digits that come
after the sign. -/
inductive IsLoose : MaskField → Int → List Char → List Char → Prop
  | unsigned {f : MaskField} {n : Int} {blanks digits rest : List Char} :
    (∀ c ∈ blanks, isBlank c = true) → IsDigits digits → digits.length ≤ f.width →
    (digits.length = f.width ∨ ∀ c ∈ rest.head?, c.isDigit = false) → (ofDigits digits : Int) = n →
    IsLoose f n (blanks ++ digits) rest
  | signed {c : Char} {sign n : Int} {blanks digits rest : List Char} :
    (∀ c ∈ blanks, isBlank c = true) → c = '+' ∧ sign = 1 ∨ c = '-' ∧ sign = -1 →
    IsDigits digits → (∀ c ∈ rest.head?, c.isDigit = false) → sign * ofDigits digits = n →
    IsLoose .year n (blanks ++ c :: digits) rest

/-- The text spells a moment loosely, with a separator and a fraction. -/
def SpelledLoosely (separator : List MaskPiece) (m : Moment) (text : List Char) : Prop :=
  isReadableYear m.date.year = true ∧ ∃ fraction, IsFraction fraction
    ∧ Spells IsLoose m fraction (datePieces ++ (separator ++ timePieces)) text

/-- A text begins with the blank characters that are taken off it. -/
theorem exists_blanks (text : List Char) :
  ∃ blanks, text = blanks ++ trimStart text ∧ ∀ c ∈ blanks, isBlank c = true
  := by
  use text.takeWhile isBlank
  constructor
  · rw [trimStart, List.takeWhile_append_dropWhile]
  · apply List.all_eq_true.mp List.all_takeWhile

theorem trimStart_append {blanks : List Char} (h : ∀ c ∈ blanks, isBlank c = true)
    (text : List Char) :
  trimStart (blanks ++ text) = trimStart text
  := List.dropWhile_append_of_pos h

theorem head?_of_isDigits {digits : List Char} (h : IsDigits digits) (rest : List Char) :
  ∃ c ∈ (digits ++ rest).head?, c.isDigit = true
  := by
  obtain ⟨c, more, rfl⟩ := List.exists_cons_of_ne_nil h.ne_nil
  use c, rfl, h.all c List.mem_cons_self

/-- A number of at most two digits is read off a text if the text begins with it. -/
theorem readLoose_eq_some_iff {f : MaskField} {n : Nat} (hwidth : f.width = 2) :
  readLoose text = some (n, rest) ↔ ∃ number, text = number ++ rest ∧ IsLoose f n number rest
  := by
  rw [readLoose, readDigits_eq_some_iff, ← hwidth]
  constructor
  · rintro ⟨digits, htrim, hdigits, hlength, hrest, rfl⟩
    obtain ⟨blanks, htext, hblanks⟩ := exists_blanks text
    use blanks ++ digits
    constructor
    · rw [List.append_assoc, ← htrim]
      exact htext
    · apply IsLoose.unsigned hblanks hdigits hlength hrest rfl
  · rintro ⟨number, rfl, hnumber⟩
    cases hnumber with
    | @unsigned f n blanks digits rest hblanks hdigits hlength hrest hvalue =>
      use digits
      constructor
      · rw [List.append_assoc, trimStart_append hblanks,
          trimStart_of_isDigit (head?_of_isDigits hdigits rest)]
      · use hdigits, hlength, hrest, Int.ofNat_inj.mp hvalue
    | signed =>
      -- Only a year has a sign.
      contradiction

theorem readYear_trimStart (text : List Char) :
  readYear (trimStart text) = readYear text
  := by
  rw [readYear, readYear, trimStart_trimStart]

/-- The digits after a sign are read to their end. -/
theorem readDigits_length_eq_some_iff {n : Nat} :
  readDigits text.length text = some (n, rest)
    ↔ ∃ digits, text = digits ++ rest ∧ IsDigits digits ∧ (∀ c ∈ rest.head?, c.isDigit = false)
      ∧ ofDigits digits = n
  := by
  rw [readDigits_eq_some_iff]
  constructor
  · rintro ⟨digits, rfl, hdigits, -, hrest, hvalue⟩
    use digits, rfl, hdigits
    constructor
    · rcases hrest with hlength | hrest
      · rw [List.length_append] at hlength
        have hnil : rest = [] := List.eq_nil_of_length_eq_zero (by omega)
        simp [hnil]
      · exact hrest
    · exact hvalue
  · rintro ⟨digits, rfl, hdigits, hrest, hvalue⟩
    use digits, rfl, hdigits, by simp, Or.inr hrest

/-- The digits of a year are read after its sign. -/
theorem readYear_of_sign {c : Char} {sign : Int} {n : Nat}
    (hsign : c = '+' ∧ sign = 1 ∨ c = '-' ∧ sign = -1)
    (h : readDigits text.length text = some (n, rest)) :
  readYear (c :: text) = some (sign * n, rest)
  := by
  rcases hsign with ⟨rfl, rfl⟩ | ⟨rfl, rfl⟩
  · have htrim : trimStart ('+' :: text) = '+' :: text := rfl
    simp only [readYear, htrim, h, Option.map_some, Int.one_mul]
  · have htrim : trimStart ('-' :: text) = '-' :: text := rfl
    simp only [readYear, htrim, h, Option.map_some, Int.neg_one_mul]

theorem exists_isLoose_of_sign {c : Char} {sign year : Int} {f : Nat → Int} {more : List Char}
    (hsign : c = '+' ∧ sign = 1 ∨ c = '-' ∧ sign = -1) (hf : ∀ n : Nat, sign * n = f n)
    (htrim : trimStart text = c :: more)
    (h : (readDigits more.length more).map (fun p => (f p.1, p.2)) = some (year, rest)) :
  ∃ number, text = number ++ rest ∧ IsLoose .year year number rest
  := by
  obtain ⟨blanks, htext, hblanks⟩ := exists_blanks text
  obtain ⟨⟨n, after⟩, hread, heq⟩ := Option.map_eq_some_iff.mp h
  cases heq
  obtain ⟨digits, rfl, hdigits, hrest, rfl⟩ := readDigits_length_eq_some_iff.mp hread
  use blanks ++ c :: digits
  constructor
  · rw [htext, htrim, List.append_assoc, List.cons_append]
  · apply IsLoose.signed hblanks hsign hdigits hrest (hf _)

/-- A year is read off a text if the text begins with it. -/
theorem readYear_eq_some_iff {year : Int} :
  readYear text = some (year, rest)
    ↔ ∃ number, text = number ++ rest ∧ IsLoose .year year number rest
  := by
  constructor
  · intro h
    unfold readYear at h
    split at h
    · next more htrim =>
      apply exists_isLoose_of_sign (Or.inr ⟨rfl, rfl⟩) (fun n => Int.neg_one_mul n) htrim h
    · next more htrim =>
      apply exists_isLoose_of_sign (Or.inl ⟨rfl, rfl⟩) (fun n => Int.one_mul n) htrim h
    · obtain ⟨⟨n, after⟩, hread, heq⟩ := Option.map_eq_some_iff.mp h
      cases heq
      obtain ⟨blanks, htext, hblanks⟩ := exists_blanks text
      obtain ⟨digits, htrim, hdigits, hlength, hrest, rfl⟩ := readDigits_eq_some_iff.mp hread
      use blanks ++ digits
      constructor
      · rw [List.append_assoc, ← htrim]
        exact htext
      · apply IsLoose.unsigned (f := .year) hblanks hdigits hlength hrest rfl
  · rintro ⟨number, rfl, hnumber⟩
    rw [← readYear_trimStart]
    cases hnumber with
    | @unsigned f n blanks digits rest hblanks hdigits hlength hrest hvalue =>
      have hread : readDigits 4 (digits ++ rest) = some (ofDigits digits, rest) :=
        readDigits_eq_some_iff.mpr ⟨digits, rfl, hdigits, hlength, hrest, rfl⟩
      rw [List.append_assoc, trimStart_append hblanks, readYear_trimStart,
        readYear_of_isDigit (head?_of_isDigits hdigits rest), hread]
      simp only [Option.map_some, hvalue]
    | @signed c sign n blanks digits rest hblanks hsign hdigits hrest hvalue =>
      have hread : readDigits (digits ++ rest).length (digits ++ rest)
          = some (ofDigits digits, rest) :=
        readDigits_length_eq_some_iff.mpr ⟨digits, rfl, hdigits, hrest, rfl⟩
      rw [List.append_assoc, trimStart_append hblanks, readYear_trimStart, List.cons_append,
        readYear_of_sign hsign hread, hvalue]

theorem readDate_iff_spells :
  readDate text = some (m.date, rest)
    ↔ isReadableYear m.date.year = true ∧ Spells IsLoose m rest datePieces text
  := by
  rw [readDate_eq_some_iff]
  constructor
  · rintro ⟨rest₁, rest₂, hyear, hmonth, hday, hreadable⟩
    obtain ⟨s₁, rfl, hs₁⟩ := readYear_eq_some_iff.mp hyear
    obtain ⟨s₂, rfl, hs₂⟩ := (readLoose_eq_some_iff (f := .month) rfl).mp hmonth
    obtain ⟨s₃, rfl, hs₃⟩ := (readLoose_eq_some_iff (f := .day) rfl).mp hday
    use hreadable, .field hs₁ (.mark (.field hs₂ (.mark (.field hs₃ .nil))))
  · simp only [datePieces, Spells.field_iff, Spells.mark_iff, Spells.nil_iff]
    rintro ⟨hreadable, s₁, _, rfl, hs₁, _, rfl, s₂, _, rfl, hs₂, _, rfl, s₃, _, rfl, hs₃, rfl⟩
    exact ⟨_, _, readYear_eq_some_iff.mpr ⟨s₁, rfl, hs₁⟩,
      (readLoose_eq_some_iff rfl).mpr ⟨s₂, rfl, hs₂⟩,
      (readLoose_eq_some_iff rfl).mpr ⟨s₃, rfl, hs₃⟩, hreadable⟩

theorem readTime_iff_spells {date : Date} :
  readTime date text = some (m, rest)
    ↔ m.date = date ∧ ∃ after, Spells IsLoose m after timePieces text
      ∧ skipFraction after = some rest
  := by
  rw [readTime_eq_readTimeBy]
  apply readTimeBy_iff_spells
  intro f hf text n rest
  apply readLoose_eq_some_iff
  fin_cases hf <;> rfl

/-- A moment without an offset is read from the texts that spell it loosely, if that holds of the
separator and the time. -/
theorem readWithout?_iff_spelledLoosely {separator : List Char → Option (List Char)}
    {pieces : List MaskPiece}
    (hseparator : ∀ {text m},
      (∃ rest, separator text = some rest ∧ readTime m.date rest = some (m, []))
      ↔ ∃ rest, Spells IsLoose m rest pieces text ∧ readTime m.date rest = some (m, [])) :
  readWithout? separator text = some m ↔ SpelledLoosely pieces m text
  := by
  simp only [SpelledLoosely, Spells.append_iff, readWithout?_eq_some_iff]
  constructor
  · rintro ⟨date, rest₁, rest₂, hdate, hskip, htime⟩
    obtain rfl := date_of_readTime htime
    obtain ⟨hreadable, hdate⟩ := readDate_iff_spells.mp hdate
    obtain ⟨rest, hpieces, htime⟩ := hseparator.mp ⟨rest₂, hskip, htime⟩
    obtain ⟨-, fraction, htime, hfraction⟩ := readTime_iff_spells.mp htime
    use hreadable, fraction, skipFraction_eq_some_nil_iff.mp hfraction, rest₁, hdate, rest
  · rintro ⟨hreadable, fraction, hfraction, rest₁, hdate, rest, hpieces, htime⟩
    have htime := readTime_iff_spells.mpr
      ⟨rfl, fraction, htime, skipFraction_eq_some_nil_iff.mpr hfraction⟩
    obtain ⟨rest₂, hskip, htime⟩ := hseparator.mpr ⟨rest, hpieces, htime⟩
    use m.date, rest₁, rest₂, readDate_iff_spells.mpr ⟨hreadable, hdate⟩

theorem readWithout?_letter_iff :
  readWithout? (skipCharacter 'T') text = some m ↔ SpelledLoosely [.mark 'T'] m text
  := by
  apply readWithout?_iff_spelledLoosely
  simp [skipCharacter_eq_some_iff, Spells.mark_iff, Spells.nil_iff]

/-- Blank characters between the date and the time are those before the hour. -/
theorem readWithout?_skipBlanks_iff :
  readWithout? skipBlanks text = some m ↔ SpelledLoosely [] m text
  := by
  apply readWithout?_iff_spelledLoosely
  simp [skipBlanks, Spells.nil_iff, readTime_trimStart]

/-- The text spells a date loosely. -/
def SpelledAsDate (date : Date) (text : List Char) : Prop :=
  isReadableYear date.year = true ∧ Spells IsLoose (Moment.midnight date) [] datePieces text

theorem readDate_iff_spelledAsDate {date : Date} :
  readDate text = some (date, []) ↔ SpelledAsDate date text
  := readDate_iff_spells (m := Moment.midnight date)

end SqlScribe.Calendar
