import SqlScribe.Json.Number
import SqlScribe.Proofs.Json.Reading
import SqlScribe.Proofs.Number.Numeral

/-!
# Numbers of JSON that are read

What reading takes off a text when it reads a number.  The parts of a number come one after
the other: a sign, digits, a fraction and an exponent.  Each of them goes as far as it can, so
that what comes after the number matters by its first character; but no character before
which a value can end continues a number (`Ends.endsNumber`).  What has been read as a
number is therefore a number by itself (`exists_of_readNumber`), and it can be skipped.

A natural number of 64 bits is read back from its decimal digits (`readNumber_natural`).
-/

namespace SqlScribe.Json

open Number Text

/-! ### The ends of the parts -/

/-- The text does not begin with a character of a sort. -/
def NoHead (p : Char → Prop) (rest : List Char) : Prop :=
  ∀ c ∈ rest.head?, ¬ p c

theorem NoHead.append {p : Char → Prop} {s rest : List Char} (hs : NoHead p s)
    (hrest : NoHead p rest) :
  NoHead p (s ++ rest)
  := by
  cases s with
  | nil => apply hrest
  | cons c s => apply hs

theorem noHead_of_forall {p q : Char → Prop} {s : List Char} (hs : ∀ c ∈ s.head?, q c)
    (h : ∀ c, q c → ¬ p c) :
  NoHead p s
  := by
  intro c hc
  apply h c (hs c hc)

/-- The character continues a number. -/
def ContinuesNumber (c : Char) : Prop :=
  c.isDigit = true ∨ c = '.' ∨ c = 'e' ∨ c = 'E'

/-- A value cannot end before a character that continues a number. -/
theorem Ends.endsNumber {rest : List Char} (h : Ends rest) :
  NoHead ContinuesNumber rest
  := by
  intro c hc hcontinues
  have hends := h c hc
  simp only [isSpace, Bool.or_eq_true, beq_iff_eq, or_assoc] at hends
  rcases hends with rfl | rfl | rfl | rfl | rfl | rfl | rfl <;>
    simp [ContinuesNumber] at hcontinues

theorem NoHead.mono {p q : Char → Prop} {rest : List Char} (h : NoHead q rest)
    (hpq : ∀ c, p c → q c) :
  NoHead p rest
  := by
  intro c hc hp
  apply h c hc (hpq c hp)

theorem Ends.noHead {p : Char → Prop} {rest : List Char} (h : Ends rest)
    (hp : ∀ c, p c → ContinuesNumber c) :
  NoHead p rest
  := h.endsNumber.mono hp

/-! ### Digits -/

variable {atEnd atEnd' : Fault} {text rest digits : List Char}

theorem readDigits_eq_ok_iff :
  readDigits atEnd text = .ok (digits, rest)
    ↔ text = digits ++ rest ∧ IsDigits digits ∧ NoHead (fun c => c.isDigit = true) rest
  := by
  constructor
  · intro h
    have happend := splitRun_append (p := Char.isDigit) text
    have hall := splitRun_fst_all (p := Char.isDigit) text
    have hrest := head?_splitRun_snd (p := Char.isDigit) text
    unfold readDigits at h
    split at h
    next digits' rest' hsplit =>
      rw [hsplit] at happend hall hrest
      split at h
      · cases h
      · next hne =>
        cases h
        use happend.symm
        constructor
        · constructor
          · apply mt List.isEmpty_iff.mpr hne
          · apply List.all_eq_true.mp hall
        · intro c hc
          apply ne_true_of_eq_false (hrest c hc)
  · rintro ⟨rfl, hdigits, hrest⟩
    have hsplit : splitRun Char.isDigit (digits ++ rest) = (digits, rest) := by
      apply splitRun_eq hdigits.all
      intro c hc
      apply eq_false_of_ne_true (hrest c hc)
    rw [readDigits, hsplit]
    dsimp only
    rw [if_neg]
    apply mt List.isEmpty_iff.mp hdigits.ne_nil

/-- Where digits go on with the digits that were read, they are read again. -/
theorem readDigits_append (hdigits : IsDigits digits)
    (hrest : NoHead (fun c => c.isDigit = true) rest) :
  readDigits atEnd (digits ++ rest) = .ok (digits, rest)
  := by
  rw [readDigits_eq_ok_iff]
  use rfl, hdigits

/-- The digits do not begin with a zero that has others after it. -/
def NoLeadingZero (digits : List Char) : Prop :=
  ¬ (digits.head? == some '0' && decide (1 < digits.length)) = true

theorem readWhole_eq_ok_iff :
  readWhole atEnd text = .ok (digits, rest)
    ↔ readDigits atEnd text = .ok (digits, rest) ∧ NoLeadingZero digits
  := by
  rw [readWhole, bind_eq_ok_iff]
  constructor
  · rintro ⟨⟨digits', rest'⟩, hdigits, h⟩
    dsimp only at h
    split at h
    · cases h
    · next hzero =>
      cases h
      use hdigits
      apply hzero
  · rintro ⟨hdigits, hzero⟩
    use (digits, rest), hdigits
    dsimp only
    rw [if_neg hzero]

theorem readWhole_append (hdigits : IsDigits digits) (hzero : NoLeadingZero digits)
    (hrest : NoHead (fun c => c.isDigit = true) rest) :
  readWhole atEnd (digits ++ rest) = .ok (digits, rest)
  := by
  rw [readWhole_eq_ok_iff]
  use readDigits_append hdigits hrest

/-! ### Fractions and exponents -/

theorem readFraction_of_noHead (h : NoHead (· = '.') text) :
  readFraction atEnd text = .ok (none, text)
  := by
  rw [readFraction.eq_2]
  intro rest hrest
  apply h '.' _ rfl
  rw [hrest]
  rfl

/-- A fraction that is read begins with a point, and it is read before whatever does not continue
it. -/
theorem exists_of_readFraction {fraction : Option (List Char)}
    (h : readFraction atEnd text = .ok (fraction, rest)) :
  ∃ s, text = s ++ rest ∧ (∀ c ∈ s.head?, c = '.')
    ∧ ∀ atEnd' rest', NoHead (fun c => c.isDigit = true ∨ c = '.') rest' →
      readFraction atEnd' (s ++ rest') = .ok (fraction, rest')
  := by
  by_cases hpoint : NoHead (· = '.') text
  · rw [readFraction_of_noHead hpoint] at h
    cases h
    use [], rfl
    constructor
    · simp
    · intro atEnd' rest' hrest'
      apply readFraction_of_noHead
      apply hrest'.mono fun c hc => Or.inr hc
  · rw [NoHead] at hpoint
    push Not at hpoint
    obtain ⟨c, hc, rfl⟩ := hpoint
    obtain ⟨more, rfl⟩ := List.head?_eq_some_iff.mp hc
    obtain ⟨⟨digits, after⟩, hdigits, h⟩ := map_eq_ok_iff.mp h
    cases h
    obtain ⟨rfl, hd, -⟩ := readDigits_eq_ok_iff.mp hdigits
    use '.' :: digits, rfl
    constructor
    · simp
    · intro atEnd' rest' hrest'
      have hread : readDigits atEnd' (digits ++ rest') = .ok (digits, rest') := by
        apply readDigits_append hd
        apply hrest'.mono fun c hc => Or.inl hc
      rw [List.cons_append, readFraction, hread]
      rfl

/-- The sign of an exponent is split off digits. -/
theorem exists_of_splitSign (text : List Char) :
  ∃ sign, text = sign ++ (Decimal.splitSign text).2
    ∧ ∀ digits rest, IsDigits digits →
      Decimal.splitSign (sign ++ (digits ++ rest)) = ((Decimal.splitSign text).1, digits ++ rest)
  := by
  unfold Decimal.splitSign
  split
  · use ['-'], rfl
    intro digits rest _
    rfl
  · use ['+'], rfl
    intro digits rest _
    rfl
  · use [], rfl
    intro digits rest hdigits
    obtain ⟨d, more, rfl⟩ := List.exists_cons_of_ne_nil hdigits.ne_nil
    have hd := hdigits.all d List.mem_cons_self
    rw [List.nil_append, List.cons_append]
    split
    · next h =>
      cases h
      contradiction
    · next h =>
      cases h
      contradiction
    · rfl

theorem readExponent_of_noHead (h : NoHead (fun c => c = 'e' ∨ c = 'E') text) :
  readExponent atEnd text = .ok (none, text)
  := by
  cases text with
  | nil => rfl
  | cons c text =>
    rw [readExponent, if_neg]
    simpa using h c rfl

/-- An exponent that is read begins with its letter, and it is read before whatever does not
continue it. -/
theorem exists_of_readExponent {exponent : Option (Bool × List Char)}
    (h : readExponent atEnd text = .ok (exponent, rest)) :
  ∃ s, text = s ++ rest ∧ (∀ c ∈ s.head?, c = 'e' ∨ c = 'E')
    ∧ ∀ atEnd' rest', NoHead (fun c => c.isDigit = true ∨ c = 'e' ∨ c = 'E') rest' →
      readExponent atEnd' (s ++ rest') = .ok (exponent, rest')
  := by
  by_cases hletter : NoHead (fun c => c = 'e' ∨ c = 'E') text
  · rw [readExponent_of_noHead hletter] at h
    cases h
    use [], rfl
    constructor
    · simp
    · intro atEnd' rest' hrest'
      apply readExponent_of_noHead
      apply hrest'.mono fun c hc => Or.inr hc
  · rw [NoHead] at hletter
    push Not at hletter
    obtain ⟨letter, hc, hletter⟩ := hletter
    obtain ⟨more, rfl⟩ := List.head?_eq_some_iff.mp hc
    have htest : (letter == 'e' || letter == 'E') = true := by simpa using hletter
    rw [readExponent, if_pos htest] at h
    obtain ⟨sign, hsign, hsplit⟩ := exists_of_splitSign more
    generalize Decimal.splitSign more = parts at h hsign hsplit
    obtain ⟨⟨digits, after⟩, hdigits, h⟩ := map_eq_ok_iff.mp h
    cases h
    obtain ⟨hmore, hd, -⟩ := readDigits_eq_ok_iff.mp hdigits
    use letter :: (sign ++ digits)
    constructor
    · rw [List.cons_append, List.append_assoc, ← hmore, ← hsign]
    constructor
    · intro c hc'
      cases hc'
      apply hletter
    · intro atEnd' rest' hrest'
      have hread : readDigits atEnd' (digits ++ rest') = .ok (digits, rest') := by
        apply readDigits_append hd
        apply hrest'.mono fun c hc => Or.inl hc
      rw [List.cons_append, readExponent, if_pos htest, List.append_assoc, hsplit _ _ hd]
      dsimp only
      rw [hread]
      rfl

/-! ### Numerals -/

/-- Reads the parts of a number after its sign. -/
def readUnsigned (atEnd : Fault) (negative : Bool) : Reader Numeral := fun text => do
  let (whole, afterWhole) ← readWhole atEnd text
  let (fraction, afterFraction) ← readFraction atEnd afterWhole
  let (exponent, rest) ← readExponent atEnd afterFraction
  return (⟨negative, whole, fraction, exponent⟩, rest)

theorem readNumeral_minus (text : List Char) :
  readNumeral atEnd ('-' :: text) = readUnsigned atEnd true text
  := rfl

theorem readNumeral_of_noHead (h : NoHead (· = '-') text) :
  readNumeral atEnd text = readUnsigned atEnd false text
  := by
  unfold readNumeral
  split
  next negative unsigned hsign =>
    split at hsign
    · next more => exact absurd rfl (h '-' rfl)
    · cases hsign
      rfl

/-- What is read of a number after its sign is read before anything that does not continue a
number; it begins with a digit. -/
theorem exists_of_readUnsigned {negative : Bool} {n : Numeral}
    (h : readUnsigned atEnd negative text = .ok (n, rest)) :
  ∃ s, text = s ++ rest ∧ (∃ c ∈ s.head?, c.isDigit = true)
    ∧ ∀ atEnd', ReadsInside (readUnsigned atEnd' negative) s n
  := by
  rw [readUnsigned, bind_eq_ok_iff] at h
  obtain ⟨⟨whole, afterWhole⟩, hwhole, h⟩ := h
  obtain ⟨⟨fraction, afterFraction⟩, hfraction, h⟩ := bind_eq_ok_iff.mp h
  obtain ⟨⟨exponent, after⟩, hexponent, h⟩ := bind_eq_ok_iff.mp h
  cases h
  obtain ⟨hdigits, hzero⟩ := readWhole_eq_ok_iff.mp hwhole
  obtain ⟨rfl, hd, -⟩ := readDigits_eq_ok_iff.mp hdigits
  obtain ⟨f, rfl, hf, hreadf⟩ := exists_of_readFraction hfraction
  obtain ⟨e, rfl, he, hreade⟩ := exists_of_readExponent hexponent
  use whole ++ (f ++ e)
  constructor
  · simp only [List.append_assoc]
  constructor
  · obtain ⟨c, more, rfl⟩ := List.exists_cons_of_ne_nil hd.ne_nil
    use c, rfl, hd.all c List.mem_cons_self
  · intro atEnd' rest' hrest'
    -- the part after a part begins with a character that does not continue it, or is absent
    have hwhole' : readWhole atEnd' (whole ++ (f ++ (e ++ rest')))
        = .ok (whole, f ++ (e ++ rest')) := by
      apply readWhole_append hd hzero
      apply NoHead.append (noHead_of_forall hf (by rintro c rfl; decide))
      apply NoHead.append (noHead_of_forall he (by rintro c (rfl | rfl) <;> decide))
      apply hrest'.noHead fun c hc => Or.inl hc
    have hfraction' : readFraction atEnd' (f ++ (e ++ rest')) = .ok (fraction, e ++ rest') := by
      apply hreadf
      apply NoHead.append (noHead_of_forall he (by rintro c (rfl | rfl) <;> decide))
      apply hrest'.noHead fun c hc => hc.imp_right Or.inl
    have hexponent' : readExponent atEnd' (e ++ rest') = .ok (exponent, rest') := by
      apply hreade
      apply hrest'.noHead fun c hc => hc.imp_right Or.inr
    rw [readUnsigned, List.append_assoc, List.append_assoc, hwhole']
    simp only [bind, Except.bind, hfraction', hexponent', pure, Except.pure]

/-- What is read as the parts of a number is read before anything that ends a value; it begins with
a minus sign or with a digit. -/
theorem exists_of_readNumeral {n : Numeral} (h : readNumeral atEnd text = .ok (n, rest)) :
  ∃ s, text = s ++ rest ∧ (∃ c ∈ s.head?, c = '-' ∨ c.isDigit = true)
    ∧ ∀ atEnd', ReadsInside (readNumeral atEnd') s n
  := by
  by_cases hminus : NoHead (· = '-') text
  · rw [readNumeral_of_noHead hminus] at h
    obtain ⟨s, rfl, ⟨c, hc, hdigit⟩, hs⟩ := exists_of_readUnsigned h
    use s, rfl
    constructor
    · use c, hc
      right
      apply hdigit
    · intro atEnd' rest' hrest'
      rw [readNumeral_of_noHead]
      · apply hs atEnd' rest' hrest'
      · obtain ⟨more, rfl⟩ := List.head?_eq_some_iff.mp hc
        rintro d hd rfl
        cases hd
        contradiction
  · rw [NoHead] at hminus
    push Not at hminus
    obtain ⟨c, hc, rfl⟩ := hminus
    obtain ⟨more, rfl⟩ := List.head?_eq_some_iff.mp hc
    rw [readNumeral_minus] at h
    obtain ⟨s, rfl, -, hs⟩ := exists_of_readUnsigned h
    use '-' :: s, rfl
    constructor
    · use '-', rfl
      left
      rfl
    · intro atEnd' rest' hrest'
      apply hs atEnd' rest' hrest'

/-! ### Numbers -/

/-- What has been read as a number is a number by itself, and it can be skipped. -/
theorem exists_of_readNumber {v : Numeric} (h : readNumber text = .ok (v, rest)) :
  ∃ s, text = s ++ rest ∧ (∃ c ∈ s.head?, c = '-' ∨ c.isDigit = true)
    ∧ ReadsInside readNumber s v ∧ ∀ rest, Ends rest → skipNumber (s ++ rest) = .ok rest
  := by
  rw [readNumber, bind_eq_ok_iff] at h
  obtain ⟨⟨n, after⟩, hn, h⟩ := h
  dsimp only at h
  split at h
  · next value hvalue =>
    cases h
    obtain ⟨s, ht, hhead, hs⟩ := exists_of_readNumeral hn
    use s, ht, hhead
    constructor
    · intro rest' hrest'
      rw [readNumber, hs _ rest' hrest']
      simp only [bind, Except.bind, hvalue]
    · intro rest' hrest'
      rw [skipNumber, hs _ rest' hrest']
      rfl
  · cases h

/-- What has been skipped as a number can be skipped by itself. -/
theorem exists_of_skipNumber (h : skipNumber text = .ok rest) :
  ∃ s, text = s ++ rest ∧ (∃ c ∈ s.head?, c = '-' ∨ c.isDigit = true)
    ∧ ∀ rest, Ends rest → skipNumber (s ++ rest) = .ok rest
  := by
  obtain ⟨⟨n, after⟩, hn, h⟩ := map_eq_ok_iff.mp h
  cases h
  obtain ⟨s, ht, hhead, hs⟩ := exists_of_readNumeral hn
  use s, ht, hhead
  intro rest' hrest'
  rw [skipNumber, hs _ rest' hrest']
  rfl

/-! ### Natural numbers that are written -/

/-- Decimal digits do not begin with a zero, but for that of zero. -/
theorem head?_toDigits_ne_zero (n : Nat) (hn : 0 < n) :
  (Nat.toDigits 10 n).head? ≠ some '0'
  := by
  induction n using Nat.strongRecOn with
  | ind n ih =>
    by_cases hsmall : n < 10
    · have hdigit : ∀ n < 10, 0 < n → [n.digitChar].head? ≠ some '0' := by decide
      rw [Nat.toDigits_of_lt_base hsmall]
      apply hdigit n hsmall hn
    · rw [Nat.toDigits_of_base_le (by decide) (by omega), List.head?_append_of_ne_nil]
      · apply ih (n / 10) (by omega) (by omega)
      · apply Nat.toDigits_ne_nil

theorem noLeadingZero_toDigits (n : Nat) :
  NoLeadingZero (Nat.toDigits 10 n)
  := by
  rcases Nat.eq_zero_or_pos n with rfl | hn
  · simp [NoLeadingZero, Nat.toDigits_zero]
  · rw [NoLeadingZero, Bool.and_eq_true, not_and]
    intro hhead
    exact absurd (beq_iff_eq.mp hhead) (head?_toDigits_ne_zero n hn)

/-- The decimal digits of a natural number are read as its digits. -/
theorem readNumeral_natural (atEnd : Fault) (n : Nat) :
  ReadsInside (readNumeral atEnd) (Nat.toDigits 10 n) ⟨false, Nat.toDigits 10 n, none, none⟩
  := by
  intro rest hrest
  have hdigits := isDigits_toDigits n
  have hwhole : readWhole atEnd (Nat.toDigits 10 n ++ rest) = .ok (Nat.toDigits 10 n, rest) := by
    apply readWhole_append hdigits (noLeadingZero_toDigits n)
    apply hrest.noHead fun c hc => Or.inl hc
  have hfraction : readFraction atEnd rest = .ok (none, rest) := by
    apply readFraction_of_noHead
    apply hrest.noHead fun c hc => Or.inr (Or.inl hc)
  have hexponent : readExponent atEnd rest = .ok (none, rest) := by
    apply readExponent_of_noHead
    apply hrest.noHead fun c hc => Or.inr (Or.inr hc)
  rw [readNumeral_of_noHead]
  · simp only [readUnsigned, hwhole, hfraction, hexponent, bind, Except.bind, pure, Except.pure]
  · obtain ⟨c, more, hcons⟩ := List.exists_cons_of_ne_nil hdigits.ne_nil
    rw [hcons]
    rintro d hd rfl
    cases hd
    have hminus := hdigits.all '-' (by rw [hcons]; simp)
    contradiction

/-- A natural number of 64 bits is read from its decimal digits. -/
theorem readNumber_natural {n : Nat} (hn : n < UInt64.size) :
  ReadsInside readNumber (toString n).toList (.integer n)
  := by
  intro rest hrest
  rw [Nat.toString_eq_ofList_toDigits, String.toList_ofList, readNumber,
    readNumeral_natural _ n rest hrest]
  simp [bind, Except.bind, Numeral.value?, ofDigits_toDigits, hn]

end SqlScribe.Json
