import SqlScribe.Sql.Token
import SqlScribe.Sql.Vocabulary
import SqlScribe.Text.Run

/-!
# Lexemes

`lexeme?` cuts the first lexeme off a text.  Its first characters decide which rule applies:
blank characters, comments, quoted texts, bracketed names, numbers, single separators,
operators (the longest that fits), words, and at last single characters.  A comment or a
quoted text without an end takes everything that is left and halts the reading; a number
that breaks off in its exponent is malformed as well, but the reading goes on after it.

Nothing is lost and nothing is empty: the text of a lexeme, followed by the rest that it
leaves, is the text that it was cut from (`lexeme?_append`), and a lexeme has at least one
character (`lexeme?_text_ne_nil`).
-/

namespace SqlScribe.Sql

open Text

/-- The operators, the longer ones first. -/
def operators : List String := [
    "->>", "!=", "<>", "<=", ">=", ":=", "||", "&&", "<<", ">>", "->", "@>", "<@", "?|", "?&",
    "::", "+", "-", "*", "/", "%", "^", "=", "<", ">", "!", "~", "&", "|", "#", "?"
  ]

/-- Whether a character can continue a word. -/
def isWordCharacter (c : Char) : Bool :=
  c.isAlphanum || c == '_'

/-- Whether a character is printed ASCII other than a letter, a digit or the space. -/
def isPunctuation (c : Char) : Bool :=
  '!' ≤ c && c ≤ '~' && !c.isAlphanum

/-- The first piece of a text, with what it leaves. -/
structure Lexeme where
  /-- What the piece is. -/
  kind : TokenKind
  /-- The piece. -/
  text : List Char
  /-- The text after the piece. -/
  rest : List Char
  /-- Whether nothing is read after the piece. -/
  halts : Bool := false

namespace Lexeme

/-- A lexeme of a text that has been split. -/
def ofSplit (kind : TokenKind) (split : List Char × List Char) : Lexeme where
  kind
  text := split.1
  rest := split.2

/-- The lexeme that consists of an opening and of the text through its end, or, when there
is no end, of everything. -/
def delimited (kind : TokenKind) (opening rest : List Char) :
    Option (List Char × List Char) → Lexeme
  | some (body, after) => { kind, text := opening ++ body, rest := after }
  | none => { kind := .error, text := opening ++ rest, rest := [], halts := true }

end Lexeme

/-- Splits a text after the first end of a block comment. -/
def throughCommentEnd? : List Char → Option (List Char × List Char)
  | [] => none
  | c :: rest =>
    if c == '*' && rest.head? == some '/' then some ([c, '/'], rest.tail)
    else (throughCommentEnd? rest).map fun (body, after) => (c :: body, after)

/-- Splits a text after the first mark that no backslash escapes.  A backslash escapes the
character after it unless it is escaped itself. -/
def throughMark? (mark : Char) (escaped : Bool) : List Char → Option (List Char × List Char)
  | [] => none
  | c :: rest =>
    if c == mark && !escaped then some ([c], rest)
    else
      (throughMark? mark (c == '\\' && !escaped) rest).map fun (body, after) => (c :: body, after)

/-- Splits a text after the first closing bracket. -/
def throughBracket? : List Char → Option (List Char × List Char)
  | [] => none
  | c :: rest =>
    if c == ']' then some ([c], rest)
    else (throughBracket? rest).map fun (body, after) => (c :: body, after)

/-- Splits a text after its first digits, of which one may be preceded by a point. -/
def splitNumber (text : List Char) : List Char × List Char :=
  let (whole, rest) := splitRun Char.isDigit text
  match rest with
  | '.' :: more =>
    let (fraction, after) := splitRun Char.isDigit more
    (whole ++ '.' :: fraction, after)
  | _ => (whole, rest)

/-- Splits a text after an optional sign. -/
def splitSign : List Char → List Char × List Char
  | [] => ([], [])
  | c :: rest => if c == '+' || c == '-' then ([c], rest) else ([], c :: rest)

/-- The number at the start of a text.  The letter of an exponent belongs to it, and so do
the sign and the digits after the letter; without digits the number is malformed. -/
def numberLexeme (text : List Char) : Lexeme :=
  let (mantissa, rest) := splitNumber text
  match rest with
  | [] => { kind := .number, text := mantissa, rest }
  | c :: more =>
    if c == 'e' || c == 'E' then
      let (sign, afterSign) := splitSign more
      let (digits, after) := splitRun Char.isDigit afterSign
      { kind := if digits.isEmpty then .error else .number
        text := mantissa ++ c :: (sign ++ digits)
        rest := after }
    else { kind := .number, text := mantissa, rest }

/-- What a word is, by the first of the three word classes that its upper-case form is in. -/
def wordKind (word : List Char) : TokenKind :=
  let upper := String.ofList (word.map Char.toUpper)
  if isKeyword upper then .keyword
  else if isFunction upper then .function
  else if isDatatype upper then .datatype
  else .identifier

/-- The longest operator at the start of a text. -/
def operatorAt? (text : List Char) : Option String :=
  operators.find? fun operator => operator.toList.isPrefixOf text

/-- The operator, the word or the single character at the start of a text. -/
def plainLexeme (c : Char) (rest : List Char) : Lexeme :=
  match operatorAt? (c :: rest) with
  | some operator => .ofSplit .operator ((c :: rest).splitAt operator.length)
  | none =>
    if c.isAlpha || c == '_' then
      let split := splitRun isWordCharacter (c :: rest)
      .ofSplit (wordKind split.1) split
    else if isPunctuation c then .ofSplit .punctuation ([c], rest)
    else .ofSplit .other ([c], rest)

/-- The lexeme at the start of a text that begins with a given character. -/
def lexemeAt (c : Char) (rest : List Char) : Lexeme :=
  if isBlank c then .ofSplit .whitespace (splitRun isBlank (c :: rest))
  else if c == '-' && rest.head? == some '-' then
    .ofSplit .comment (splitRun (· != '\n') (c :: rest))
  else if c == '/' && rest.head? == some '*' then
    .delimited .comment [c, '*'] rest.tail (throughCommentEnd? rest.tail)
  else if c == '\'' then .delimited .string [c] rest (throughMark? c false rest)
  else if c == '"' || c == '\x60' then .delimited .identifier [c] rest (throughMark? c false rest)
  else if c == '[' then .delimited .identifier [c] rest (throughBracket? rest)
  else if c.isDigit || (c == '.' && rest.head?.any Char.isDigit) then numberLexeme (c :: rest)
  else if c == '(' || c == ')' then .ofSplit .parenthesis ([c], rest)
  else if c == ',' then .ofSplit .comma ([c], rest)
  else if c == ';' then .ofSplit .semicolon ([c], rest)
  else plainLexeme c rest

/-- The first lexeme of a text; the empty text has none. -/
def lexeme? : List Char → Option Lexeme
  | [] => none
  | c :: rest => some (lexemeAt c rest)

/-! ### Nothing is lost -/

namespace Lexeme

/-- The lexeme is not empty and stands at the start of the text. -/
def Cuts (x : Lexeme) (text : List Char) : Prop :=
  x.text ++ x.rest = text ∧ x.text ≠ []

theorem delimited_cuts {kind : TokenKind} (opening : List Char) {rest : List Char} (h : opening ≠ [])
    {split : Option (List Char × List Char)} (hs : ∀ s ∈ split, s.1 ++ s.2 = rest) :
  (delimited kind opening rest split).Cuts (opening ++ rest)
  := by
  cases split with
  | none => simp [delimited, Cuts, h]
  | some s => simp [delimited, Cuts, h, ← hs s rfl]

end Lexeme

theorem append_of_throughCommentEnd? {text : List Char} :
  ∀ s ∈ throughCommentEnd? text, s.1 ++ s.2 = text
  := by
  induction text with
  | nil => simp [throughCommentEnd?]
  | cons c rest ih =>
    intro s hs
    rw [throughCommentEnd?] at hs
    split at hs
    · next h =>
      cases rest with
      | nil => simp at h
      | cons d rest => cases hs; simp_all
    · obtain ⟨s', h, rfl⟩ := Option.map_eq_some_iff.1 hs
      simp [ih s' h]

theorem append_of_throughMark? {mark : Char} {escaped : Bool} {text : List Char} :
  ∀ s ∈ throughMark? mark escaped text, s.1 ++ s.2 = text
  := by
  induction text generalizing escaped with
  | nil => simp [throughMark?]
  | cons c rest ih =>
    intro s hs
    rw [throughMark?] at hs
    split at hs
    · cases hs; simp
    · obtain ⟨s', h, rfl⟩ := Option.map_eq_some_iff.1 hs
      simp [ih s' h]

theorem append_of_throughBracket? {text : List Char} :
  ∀ s ∈ throughBracket? text, s.1 ++ s.2 = text
  := by
  induction text with
  | nil => simp [throughBracket?]
  | cons c rest ih =>
    intro s hs
    rw [throughBracket?] at hs
    split at hs
    · cases hs; simp
    · obtain ⟨s', h, rfl⟩ := Option.map_eq_some_iff.1 hs
      simp [ih s' h]

theorem splitNumber_append (text : List Char) :
  (splitNumber text).1 ++ (splitNumber text).2 = text
  := by
  have h := splitRun_append (p := Char.isDigit) text
  unfold splitNumber
  split
  next whole rest hw =>
    rw [hw] at h
    split
    · next more => simp [← h, splitRun_append]
    · exact h

theorem splitSign_append (text : List Char) :
  (splitSign text).1 ++ (splitSign text).2 = text
  := by
  cases text with
  | nil => rfl
  | cons c rest => rw [splitSign]; split <;> simp

theorem numberLexeme_append (text : List Char) :
  (numberLexeme text).text ++ (numberLexeme text).rest = text
  := by
  have h := splitNumber_append text
  unfold numberLexeme
  split
  next mantissa rest hm =>
    rw [hm] at h
    cases rest with
    | nil => exact h
    | cons c more =>
      have hs := splitSign_append more
      have hd := splitRun_append (p := Char.isDigit) (splitSign more).2
      by_cases he : (c == 'e' || c == 'E') = true
      · simp [he, ← h, hd, hs]
      · simp [he, ← h]

theorem numberLexeme_text_ne_nil {c : Char} {rest : List Char}
    (h : c.isDigit = true ∨ c = '.' ∧ rest.head?.any Char.isDigit = true) :
  (numberLexeme (c :: rest)).text ≠ []
  := by
  have hm : (splitNumber (c :: rest)).1 ≠ [] := by
    unfold splitNumber
    rcases h with h | ⟨rfl, h⟩
    · rw [splitRun_cons_of_pos h]
      split
      next whole _ hw =>
        cases hw
        split <;> simp
    · rw [splitRun_cons_of_neg (by decide)]
      simp
  unfold numberLexeme
  split
  next mantissa _ hw =>
    rw [hw] at hm
    split
    · exact hm
    · split <;> simp [hm]

theorem length_ne_zero_of_mem_operators :
  ∀ o ∈ operators, o.length ≠ 0
  := by
  decide +kernel

theorem plainLexeme_cuts (c : Char) (rest : List Char) :
  (plainLexeme c rest).Cuts (c :: rest)
  := by
  unfold plainLexeme
  split
  · next o ho =>
    obtain ⟨n, hn⟩ :=
      Nat.exists_eq_succ_of_ne_zero
        (length_ne_zero_of_mem_operators o (List.mem_of_find?_eq_some ho))
    simp [Lexeme.Cuts, Lexeme.ofSplit, List.splitAt_eq, hn]
  · split
    · next h =>
      have hw : isWordCharacter c = true := by
        simp only [isWordCharacter, Char.isAlphanum, Bool.or_eq_true] at h ⊢
        exact h.imp_left Or.inl
      refine ⟨splitRun_append _, ?_⟩
      simp [Lexeme.ofSplit, splitRun_cons_of_pos hw]
    · split <;> simp [Lexeme.Cuts, Lexeme.ofSplit]

theorem lexemeAt_cuts (c : Char) (rest : List Char) :
  (lexemeAt c rest).Cuts (c :: rest)
  := by
  unfold lexemeAt
  split
  · next h =>
    refine ⟨splitRun_append _, ?_⟩
    simp [Lexeme.ofSplit, splitRun_cons_of_pos h]
  split
  · next h =>
    refine ⟨splitRun_append _, ?_⟩
    simp only [Bool.and_eq_true, beq_iff_eq] at h
    have hc : (fun x : Char => x != '\n') c = true := by rw [h.1]; decide
    rw [Lexeme.ofSplit, splitRun_cons_of_pos (p := fun x : Char => x != '\n') hc]
    simp
  split
  · next h =>
    cases rest with
    | nil => simp at h
    | cons d rest =>
      simp only [Bool.and_eq_true, beq_iff_eq, List.head?_cons, Option.some.injEq] at h
      obtain ⟨rfl, rfl⟩ := h
      exact Lexeme.delimited_cuts _ (by simp) append_of_throughCommentEnd?
  split
  · exact Lexeme.delimited_cuts [c] (by simp) append_of_throughMark?
  split
  · exact Lexeme.delimited_cuts [c] (by simp) append_of_throughMark?
  split
  · exact Lexeme.delimited_cuts [c] (by simp) append_of_throughBracket?
  split
  · next h =>
    refine ⟨numberLexeme_append _, numberLexeme_text_ne_nil ?_⟩
    simpa using h
  split
  · simp [Lexeme.Cuts, Lexeme.ofSplit]
  split
  · simp [Lexeme.Cuts, Lexeme.ofSplit]
  split
  · simp [Lexeme.Cuts, Lexeme.ofSplit]
  exact plainLexeme_cuts c rest

/-- The text of a lexeme and the rest that it leaves make up the text that it was cut
from. -/
theorem lexeme?_append {text : List Char} {x : Lexeme} (h : lexeme? text = some x) :
  x.text ++ x.rest = text
  := by
  cases text with
  | nil => simp [lexeme?] at h
  | cons c rest => cases h; exact (lexemeAt_cuts c rest).1

/-- A lexeme has at least one character. -/
theorem lexeme?_text_ne_nil {text : List Char} {x : Lexeme} (h : lexeme? text = some x) :
  x.text ≠ []
  := by
  cases text with
  | nil => simp [lexeme?] at h
  | cons c rest => cases h; exact (lexemeAt_cuts c rest).2

/-- A lexeme leaves less than the text that it was cut from. -/
theorem length_rest_lt_of_lexeme? {text : List Char} {x : Lexeme} (h : lexeme? text = some x) :
  x.rest.length < text.length
  := by
  have hp := List.length_pos_iff.2 (lexeme?_text_ne_nil h)
  rw [← lexeme?_append h, List.length_append]
  omega

end SqlScribe.Sql
