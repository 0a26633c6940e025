import Mathlib.Tactic.Use
import SqlScribe.Schema.Value

/-!
# Numerals

The texts of numbers as they stand in a statement without quotes.  A numeral is an optional
sign, digits with at most one point among them and at least one digit, and an optional
exponent, which is a letter, an optional sign and digits; nothing else belongs to it.
Whatever a value is written as when it is taken for a number is a numeral
(`isNumeral_of_asNumber?`): `Decimal.parse?` reads nothing else, and neither the integers nor
the finite doubles are printed as anything else.
-/

namespace SqlScribe.Number

open Text

/-! ### The grammar of numerals -/

/-- Some digits. -/
structure IsDigits (s : List Char) : Prop where
  /-- There is a digit. -/
  ne_nil : s ≠ []
  /-- There is nothing but digits. -/
  all : ∀ c ∈ s, c.isDigit = true

/-- An optional sign. -/
def IsSign (s : List Char) : Prop :=
  s = [] ∨ s = ['+'] ∨ s = ['-']

/-- Digits with an optional point, and at least one digit. -/
inductive IsSignificand : List Char → Prop
  | whole {digits : List Char} : IsDigits digits → IsSignificand digits
  | point {digits fraction : List Char} : IsDigits digits → (∀ c ∈ fraction, c.isDigit = true) →
    IsSignificand (digits ++ '.' :: fraction)
  | fraction {digits : List Char} : IsDigits digits → IsSignificand ('.' :: digits)

/-- An optional exponent. -/
inductive IsExponent : List Char → Prop
  | none : IsExponent []
  | some {letter : Char} {sign digits : List Char} : letter = 'e' ∨ letter = 'E' → IsSign sign →
    IsDigits digits → IsExponent (letter :: (sign ++ digits))

/-- The text of a number. -/
inductive IsNumeral : List Char → Prop
  | mk {sign significand exponent : List Char} : IsSign sign → IsSignificand significand →
    IsExponent exponent → IsNumeral (sign ++ (significand ++ exponent))

theorem isNumeral_of_isSignificand {s : List Char} (h : IsSignificand s) :
  IsNumeral s
  := by
  have hn := IsNumeral.mk (Or.inl rfl) h IsExponent.none
  simpa using hn

theorem isNumeral_of_isDigits {s : List Char} (h : IsDigits s) :
  IsNumeral s
  := isNumeral_of_isSignificand (.whole h)

theorem isNumeral_minus {s : List Char} (h : IsSignificand s) :
  IsNumeral ('-' :: s)
  := by
  have hn := IsNumeral.mk (Or.inr (Or.inr rfl)) h IsExponent.none
  simpa using hn

/-! ### The characters of numerals -/

/-- The characters of numerals. -/
def IsNumeralCharacter (c : Char) : Prop :=
  c.isDigit = true ∨ c ∈ ['+', '-', '.', 'e', 'E']

theorem IsSign.characters {s : List Char} (h : IsSign s) :
  ∀ c ∈ s, IsNumeralCharacter c
  := by
  intro c hc
  right
  rcases h with rfl | rfl | rfl
  · contradiction
  · rw [List.mem_singleton.mp hc]
    decide
  · rw [List.mem_singleton.mp hc]
    decide

theorem IsSignificand.characters {s : List Char} (h : IsSignificand s) :
  ∀ c ∈ s, IsNumeralCharacter c
  := by
  intro c hc
  cases h with
  | whole hd => exact Or.inl (hd.all c hc)
  | point hd hf =>
    rcases List.mem_append.mp hc with hc | hc
    · exact Or.inl (hd.all c hc)
    rcases List.mem_cons.mp hc with rfl | hc
    · right
      decide
    · exact Or.inl (hf c hc)
  | fraction hd =>
    rcases List.mem_cons.mp hc with rfl | hc
    · right
      decide
    · exact Or.inl (hd.all c hc)

theorem IsExponent.characters {s : List Char} (h : IsExponent s) :
  ∀ c ∈ s, IsNumeralCharacter c
  := by
  intro c hc
  cases h with
  | none => contradiction
  | some hl hs hd =>
    rcases List.mem_cons.mp hc with rfl | hc
    · right
      rcases hl with rfl | rfl <;> decide
    rcases List.mem_append.mp hc with hc | hc
    · exact hs.characters c hc
    · exact Or.inl (hd.all c hc)

theorem IsNumeral.characters {s : List Char} (h : IsNumeral s) :
  ∀ c ∈ s, IsNumeralCharacter c
  := by
  obtain ⟨hs, hm, he⟩ := h
  intro c hc
  rcases List.mem_append.mp hc with hc | hc
  · exact hs.characters c hc
  rcases List.mem_append.mp hc with hc | hc
  · exact hm.characters c hc
  · exact he.characters c hc

/-! ### Numbers that are read -/

theorem isSign_splitSign (text : List Char) :
  ∃ sign, IsSign sign ∧ text = sign ++ (Decimal.splitSign text).2
  := by
  unfold Decimal.splitSign
  split
  · use ['-'], Or.inr (Or.inr rfl)
    rfl
  · use ['+'], Or.inr (Or.inl rfl)
    rfl
  · use [], Or.inl rfl
    rfl

theorem isExponent_of_readExponent? {text : List Char} {n : Int}
    (h : Decimal.readExponent? text = some n) :
  IsExponent text
  := by
  cases text with
  | nil => exact IsExponent.none
  | cons c rest =>
    obtain ⟨sign, hs, hrest⟩ := isSign_splitSign rest
    rw [Decimal.readExponent?] at h
    generalize Decimal.splitSign rest = parts at h hrest
    obtain ⟨negative, digits⟩ := parts
    simp only [Option.ite_none_right_eq_some, Bool.and_eq_true, Bool.or_eq_true, beq_iff_eq,
      Bool.not_eq_true', List.isEmpty_eq_false_iff, List.all_eq_true] at h
    obtain ⟨⟨⟨hl, hne⟩, hall⟩, -⟩ := h
    rw [hrest]
    apply IsExponent.some hl hs ⟨hne, hall⟩

/-- Digits, and the digits after a point, make up a significand unless there are none. -/
theorem isSignificand_of_splitFraction {whole after : List Char}
    (hw : ∀ c ∈ whole, c.isDigit = true)
    (h : ¬ (whole = [] ∧ (Decimal.splitFraction after).1 = [])) :
  ∃ significand, IsSignificand significand
    ∧ whole ++ after = significand ++ (Decimal.splitFraction after).2
  := by
  unfold Decimal.splitFraction at h ⊢
  split at h
  · next rest =>
    have happend := splitRun_append (p := Char.isDigit) rest
    have hall : ∀ c ∈ (splitRun Char.isDigit rest).1, c.isDigit = true :=
      List.all_eq_true.mp (splitRun_fst_all rest)
    by_cases he : whole = []
    · subst he
      have hf : (splitRun Char.isDigit rest).1 ≠ [] := by simpa using h
      use '.' :: (splitRun Char.isDigit rest).1, IsSignificand.fraction ⟨hf, hall⟩
      simp [happend]
    · use whole ++ '.' :: (splitRun Char.isDigit rest).1, IsSignificand.point ⟨he, hw⟩ hall
      simp [happend]
  · have he : whole ≠ [] := by simpa using h
    use whole, IsSignificand.whole ⟨he, hw⟩

/-- Only numerals are read as decimal numbers. -/
theorem isNumeral_of_parse? {text : List Char} {d : Decimal} (h : Decimal.parse? text = some d) :
  IsNumeral text
  := by
  obtain ⟨sign, hs, htext⟩ := isSign_splitSign text
  have happend := splitRun_append (p := Char.isDigit) (Decimal.splitSign text).2
  have hall : ∀ c ∈ (splitRun Char.isDigit (Decimal.splitSign text).2).1, c.isDigit = true :=
    List.all_eq_true.mp (splitRun_fst_all _)
  unfold Decimal.parse? at h
  dsimp only at h
  split at h
  · contradiction
  · next hne =>
    obtain ⟨exponent, he, -⟩ := Option.map_eq_some_iff.mp h
    have hne' : ¬ ((splitRun Char.isDigit (Decimal.splitSign text).2).1 = []
        ∧ (Decimal.splitFraction (splitRun Char.isDigit (Decimal.splitSign text).2).2).1 = []) := by
      simpa using hne
    obtain ⟨significand, hm, hrest⟩ := isSignificand_of_splitFraction hall hne'
    rw [htext, ← happend, hrest]
    apply IsNumeral.mk hs hm (isExponent_of_readExponent? he)

/-! ### Numbers that are written -/

theorem isDigits_toDigits (n : Nat) :
  IsDigits (Nat.toDigits 10 n)
  := by
  constructor
  · exact Nat.toDigits_ne_nil
  · intro c hc
    exact Nat.isDigit_of_mem_toDigits (by decide) (by decide) hc

/-- The decimal digits of a number are read as the number. -/
theorem ofDigits_toDigits (n : Nat) :
  ofDigits (Nat.toDigits 10 n) = n
  := Nat.ofDigitChars_ten_toDigits

theorem isDigits_toString (n : Nat) :
  IsDigits (toString n).toList
  := by
  rw [Nat.toString_eq_ofList_toDigits, String.toList_ofList]
  apply isDigits_toDigits

theorem isNumeral_toString (n : Int) :
  IsNumeral (toString n).toList
  := by
  cases n with
  | ofNat n => exact isNumeral_of_isDigits (isDigits_toString n)
  | negSucc n =>
    have h : (toString (Int.negSucc n)).toList = '-' :: (toString (n + 1)).toList := by
      rw [Int.toString_eq_repr, Nat.toString_eq_ofList_toDigits, String.toList_ofList]
      simp [Int.repr_eq_if, Int.negSucc_not_nonneg]
    rw [h]
    apply isNumeral_minus (.whole (isDigits_toString (n + 1)))

theorem isDigit_of_mem_replicate {n : Nat} {c : Char} (h : c ∈ List.replicate n '0') :
  c.isDigit = true
  := by
  rw [List.eq_of_mem_replicate h]
  decide

/-- All digits written out, around a point or not, make up a significand. -/
theorem isSignificand_writePositional (d : Scaled) :
  IsSignificand (Layout.plain.writePositional d).toList
  := by
  obtain ⟨hne, hall⟩ := isDigits_toDigits d.digits
  unfold Layout.writePositional
  generalize Nat.toDigits 10 d.digits = digits at hne hall
  dsimp only
  split
  · have hz : ∀ c ∈ digits ++ List.replicate d.exponent.toNat '0', c.isDigit = true := by
      intro c hc
      rcases List.mem_append.mp hc with hc | hc
      · exact hall c hc
      · exact isDigit_of_mem_replicate hc
    have he : digits ++ List.replicate d.exponent.toNat '0' ≠ [] := by simp [hne]
    simpa [zeros, Layout.plain] using IsSignificand.whole ⟨he, hz⟩
  · generalize hp : List.replicate ((-d.exponent).toNat + 1 - digits.length) '0' ++ digits = padded
    have hlength : (-d.exponent).toNat + 1 ≤ padded.length := by
      rw [← hp, List.length_append, List.length_replicate]
      omega
    have hz : ∀ c ∈ padded, c.isDigit = true := by
      intro c hc
      rw [← hp] at hc
      rcases List.mem_append.mp hc with hc | hc
      · exact isDigit_of_mem_replicate hc
      · exact hall c hc
    have hwhole : IsDigits (padded.take (padded.length - (-d.exponent).toNat)) := by
      constructor
      · apply List.ne_nil_of_length_pos
        rw [List.length_take]
        omega
      · intro c hc
        exact hz c (List.mem_of_mem_take hc)
    have hfraction : ∀ c ∈ padded.drop (padded.length - (-d.exponent).toNat),
        c.isDigit = true := by
      intro c hc
      exact hz c (List.mem_of_mem_drop hc)
    simpa using IsSignificand.point hwhole hfraction

/-- A finite double is written as a numeral. -/
theorem isNumeral_write {x : Double} (h : x.isFinite = true) :
  IsNumeral (Layout.plain.write x).toList
  := by
  cases x with
  | nan => contradiction
  | infinite => contradiction
  | finite negative scale fraction =>
    have hm : IsSignificand (Layout.plain.writeMagnitude scale fraction).toList := by
      apply isSignificand_writePositional
    cases negative with
    | false => simpa [Layout.write] using isNumeral_of_isSignificand hm
    | true => simpa [Layout.write] using isNumeral_minus hm

end SqlScribe.Number

namespace SqlScribe.Value

open Number

/-- A value that is taken for a number is written as a numeral. -/
theorem isNumeral_of_asNumber? {v : Value} {n : String} (h : v.asNumber? = some n) :
  IsNumeral n.toList
  := by
  cases v with
  | null => contradiction
  | bool b =>
    cases h
    cases b with
    | false => exact isNumeral_of_isDigits (isDigits_toString 0)
    | true => exact isNumeral_of_isDigits (isDigits_toString 1)
  | int n =>
    cases h
    apply isNumeral_toString
  | float x =>
    rw [asNumber?, Option.ite_none_right_eq_some] at h
    obtain ⟨hx, h⟩ := h
    cases h
    apply isNumeral_write hx
  | text s =>
    rw [asNumber?, numberOfText?] at h
    split at h
    · next d hd =>
      split at h
      · contradiction
      · cases h
        rw [Text.trimmed, String.toList_ofList]
        apply isNumeral_of_parse? hd
    · contradiction

end SqlScribe.Value
