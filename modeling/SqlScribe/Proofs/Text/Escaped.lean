import SqlScribe.Json.Text
import SqlScribe.Proofs.Text.Reader
import SqlScribe.Text.Escaped

/-!
# Reading escaped texts

An escaped text is read back as the text that was escaped, whatever comes after it
(`reads_quoted`): no escaped form of a character begins another one or the closing quote, and the
digits of a code point are those of its number.  There is no line break and no tab in an escaped
text (`not_mem_quoted`).
-/

namespace SqlScribe.Text.Escaped

open Json (hexValue?)
open Reader hiding quoted reads_quoted

/-! ### The reader -/

/-- Whether a character is a hexadecimal digit. -/
def isHexDigit (c : Char) : Bool :=
  (hexValue? c).isSome

/-- The number of some hexadecimal digits. -/
def ofHexadecimal (digits : List Char) : Nat :=
  digits.foldl (fun n c => 16 * n + (hexValue? c).getD 0) 0

/-- Reads a character that is given by its code point, after the `u`. -/
def codePoint : Reader Char := do
  expect "\x7b"
  let digits ← spanning isHexDigit
  expect "\x7d"
  return Char.ofNat (ofHexadecimal digits.toList)

/-- The character that a letter stands for after a backslash. -/
def escaped? : Char → Option Char
  | '0' => some '\x00'
  | 't' => some '\t'
  | 'r' => some '\r'
  | 'n' => some '\n'
  | '"' => some '"'
  | '\'' => some '\''
  | '\\' => some '\\'
  | _ => none

/-- Reads a character after a backslash. -/
def escapedCharacter : Reader Char
  | [] => none
  | c :: rest => if c == 'u' then codePoint.run rest else (escaped? c).map fun d => (d, rest)

/-- Reads a character, escaped or not, before the closing quote. -/
def character : Reader Char
  | [] => none
  | c :: rest =>
    if c == '"' then none
    else if c == '\\' then escapedCharacter.run rest
    else some (c, rest)

/-- Reads an escaped text with its double quotes. -/
def text : Reader String := do
  expect "\""
  let cs ← many character
  expect "\""
  return String.ofList cs

/-! ### Code points -/

theorem hexValue?_digitChar :
  ∀ n < 16, hexValue? n.digitChar = some n
  := by
  decide

/-- What holds of single digits, and goes on to hold when a digit is appended, holds of all
hexadecimal digits that are written. -/
theorem hexadecimal_induction {P : Nat → List Char → Prop}
    (hdigit : ∀ m < 16, P m [m.digitChar])
    (happend : ∀ n digits, ∀ m < 16, P n digits → P (16 * n + m) (digits ++ [m.digitChar]))
    (n : Nat) :
  P n (hexadecimal n)
  := by
  induction n using Nat.strongRecOn with
  | ind n ih =>
    by_cases hsmall : n < 16
    · rw [hexadecimal, Nat.toDigits_of_lt_base hsmall]
      exact hdigit n hsmall
    · have h := happend _ _ (n % 16) (by omega) (ih (n / 16) (by omega))
      rw [Nat.div_add_mod] at h
      rw [hexadecimal, Nat.toDigits_of_base_le (by decide) (by omega)]
      exact h

/-- The hexadecimal digits of a number are read as the number. -/
theorem ofHexadecimal_hexadecimal (n : Nat) :
  ofHexadecimal (hexadecimal n) = n
  := by
  apply hexadecimal_induction (P := fun n digits => ofHexadecimal digits = n)
  · intro m hm
    simp [ofHexadecimal, hexValue?_digitChar m hm]
  · intro n digits m hm h
    rw [ofHexadecimal] at h
    simp [ofHexadecimal, h, hexValue?_digitChar m hm]

theorem isHexDigit_of_mem_hexadecimal {n : Nat} {c : Char} (h : c ∈ hexadecimal n) :
  isHexDigit c = true
  := by
  have hdigit : ∀ m < 16, isHexDigit m.digitChar = true := by
    intro m hm
    rw [isHexDigit, hexValue?_digitChar m hm, Option.isSome_some]
  have hall : ∀ c ∈ hexadecimal n, isHexDigit c = true := by
    apply hexadecimal_induction (P := fun _ digits => ∀ c ∈ digits, isHexDigit c = true)
    · intro m hm c hc
      rw [List.mem_singleton.mp hc]
      exact hdigit m hm
    · intro n digits m hm hdigits c hc
      rcases List.mem_append.mp hc with hc | hc
      · exact hdigits c hc
      · rw [List.mem_singleton.mp hc]
        exact hdigit m hm
  exact hall c h

/-- The hexadecimal digits of a number are read as far as they go. -/
theorem reads_hexadecimal (n : Nat) :
  Reads (spanning isHexDigit) (String.ofList (hexadecimal n)) (hexadecimal n)
    (·.head? = some '\x7d')
  := by
  have hdigits : ∀ c ∈ (String.ofList (hexadecimal n)).toList, isHexDigit c = true := by
    intro c hc
    rw [String.toList_ofList] at hc
    exact isHexDigit_of_mem_hexadecimal hc
  have hread := reads_spanning hdigits
  rw [String.toList_ofList] at hread
  apply hread.mono
  intro rest hrest c hc
  rw [hrest] at hc
  cases hc
  decide

/-- A code point is read back as its character. -/
theorem reads_codePoint (c : Char) :
  Reads codePoint c ('\x7b' :: (hexadecimal c.toNat ++ ['\x7d'])) Anything
  := by
  have hread : Reads codePoint
      (Char.ofNat (ofHexadecimal (String.ofList (hexadecimal c.toNat)).toList)) _ Anything :=
    (reads_expect "\x7b").bind
      ((reads_hexadecimal c.toNat).bind ((reads_expect "\x7d").bind_pure _) (fun _ _ => rfl))
      (fun _ _ => trivial)
  rw [String.toList_ofList, ofHexadecimal_hexadecimal, Char.ofNat_toNat] at hread
  exact hread

/-! ### Characters and texts -/

/-- What is written for a character is read back as the character. -/
theorem reads_escape (c : Char) :
  Reads character c (escape c) Anything
  := by
  intro rest _
  unfold escape
  -- The escapes by a letter are computed; the last case is that of all other characters.
  split
  case h_7 _ _ _ hquote hbackslash =>
    split
    · have hcode := reads_codePoint c rest trivial
      change codePoint.run _ = _
      simpa using hcode
    · change (if c == '"' then none else if c == '\\' then _ else some (c, rest)) = _
      rw [if_neg (mt beq_iff_eq.mp hquote), if_neg (mt beq_iff_eq.mp hbackslash)]
  all_goals rfl

theorem escape_ne_nil (c : Char) :
  escape c ≠ []
  := by
  unfold escape
  split
  case h_7 => split <;> simp
  all_goals simp

/-- The escaped forms of characters are read back up to the closing quote. -/
theorem reads_escaped (cs : List Char) :
  Reads (many character) cs (cs.flatMap escape) (·.head? = some '"')
  := by
  have hread : Reads (many character) (cs.map id) (cs.flatMap escape) (·.head? = some '"') := by
    apply reads_many
    · intro c _
      exact escape_ne_nil c
    · intro c _
      exact reads_escape c
    · intro c _ rest
      trivial
    · intro rest hrest
      obtain ⟨more, rfl⟩ := List.head?_eq_some_iff.mp hrest
      exact ⟨trivial, rfl⟩
  rwa [List.map_id] at hread

/-- An escaped text is read back as the text. -/
theorem reads_quoted (s : String) :
  Reads text s (quoted s).toList Anything
  := by
  have hread : Reads text (String.ofList s.toList) _ Anything :=
    (reads_expect "\"").bind
      ((reads_escaped s.toList).bind ((reads_expect "\"").bind_pure _) (fun _ _ => rfl))
      (fun _ _ => trivial)
  rw [String.ofList_toList] at hread
  rw [quoted, String.toList_ofList]
  exact hread

/-! ### Line breaks and tabs -/

theorem not_mem_escape {k : Char} (hk : k = '\n' ∨ k = '\t') (c : Char) :
  k ∉ escape c
  := by
  unfold escape
  split
  case h_7 htab _ hbreak _ _ =>
    split
    · intro hmem
      have hdigit : k ∈ hexadecimal c.toNat := by rcases hk with rfl | rfl <;> simpa using hmem
      have hhex := isHexDigit_of_mem_hexadecimal hdigit
      rcases hk with rfl | rfl <;> contradiction
    · rcases hk with rfl | rfl
      · simpa using Ne.symm hbreak
      · simpa using Ne.symm htab
  all_goals rcases hk with rfl | rfl <;> decide

/-- There is no line break and no tab in an escaped text. -/
theorem not_mem_quoted {k : Char} (hk : k = '\n' ∨ k = '\t') (s : String) :
  k ∉ (quoted s).toList
  := by
  have hquote : k ≠ '"' := by rcases hk with rfl | rfl <;> decide
  rw [quoted, String.toList_ofList, encode]
  simp [not_mem_escape hk, hquote]

end SqlScribe.Text.Escaped
