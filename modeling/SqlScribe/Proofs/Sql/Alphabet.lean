import SqlScribe.Sql.Lexeme

/-!
# The characters of words

The letters and digits of words are those of ASCII, so that each class of them is a range of
codes or two.  What is known about a character of a word follows from these ranges by
arithmetic.
-/

namespace SqlScribe.Sql

theorem isUpper_iff {c : Char} :
  c.isUpper = true ↔ 0x41 ≤ c.toNat ∧ c.toNat ≤ 0x5A
  := by
  change decide (c.val ≥ 'A'.val ∧ c.val ≤ 'Z'.val) = true ↔ _
  rw [decide_eq_true_eq, ge_iff_le, UInt32.le_iff_toNat_le, UInt32.le_iff_toNat_le]
  rfl

theorem isLower_iff {c : Char} :
  c.isLower = true ↔ 0x61 ≤ c.toNat ∧ c.toNat ≤ 0x7A
  := by
  change (decide (c.val ≥ 'a'.val) && decide (c.val ≤ 'z'.val)) = true ↔ _
  rw [Bool.and_eq_true, decide_eq_true_eq, decide_eq_true_eq, ge_iff_le,
    UInt32.le_iff_toNat_le, UInt32.le_iff_toNat_le]
  rfl

theorem isDigit_iff {c : Char} :
  c.isDigit = true ↔ 0x30 ≤ c.toNat ∧ c.toNat ≤ 0x39
  := Char.isDigit_iff_toNat

theorem isAlpha_iff {c : Char} :
  c.isAlpha = true
    ↔ (0x41 ≤ c.toNat ∧ c.toNat ≤ 0x5A) ∨ (0x61 ≤ c.toNat ∧ c.toNat ≤ 0x7A)
  := by
  change (c.isUpper || c.isLower) = true ↔ _
  rw [Bool.or_eq_true, isUpper_iff, isLower_iff]

theorem isAlphanum_iff {c : Char} :
  c.isAlphanum = true ↔ c.isAlpha = true ∨ c.isDigit = true
  := Bool.or_eq_true_iff

theorem isWordCharacter_iff {c : Char} :
  isWordCharacter c = true ↔ c.isAlpha = true ∨ c.isDigit = true ∨ c = '_'
  := by
  rw [isWordCharacter, Bool.or_eq_true, isAlphanum_iff, beq_iff_eq, or_assoc]

/-- The codes of the characters of words. -/
theorem toNat_of_isWordCharacter {c : Char} (h : isWordCharacter c = true) :
  ((0x41 ≤ c.toNat ∧ c.toNat ≤ 0x5A) ∨ (0x61 ≤ c.toNat ∧ c.toNat ≤ 0x7A))
    ∨ (0x30 ≤ c.toNat ∧ c.toNat ≤ 0x39) ∨ c.toNat = 0x5F
  := by
  rw [isWordCharacter_iff, isAlpha_iff, isDigit_iff] at h
  exact h.imp_right (Or.imp_right fun h => by rw [h]; rfl)

end SqlScribe.Sql
