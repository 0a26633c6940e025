import SqlScribe.Proofs.Sql.CodeReading
import SqlScribe.Proofs.Sql.Lookahead

/-!
# Malformed lexemes

There are two sorts of malformed lexemes, and the reading deals with them in two ways.  A quoted
text, a bracketed name or a comment without an end takes everything that is left and halts the
reading; a number that breaks off in its exponent ends there, and the reading goes on after it.
`IsUnterminated` and `IsBrokenOff` describe the texts of the two sorts by themselves, and no text
is of both (`not_isUnterminated_of_isBrokenOff`).

Each lexeme that is read is well formed or malformed in one of these ways (`outcome_of_lexeme?`).
This is shown for each rule of reading; only the rules for texts with an end and the rule for
numbers give malformed lexemes at all.
-/

namespace SqlScribe.Sql

open Text

/-! ### Texts without an end -/

/-- How a text with an end is delimited. -/
structure Delimiters where
  /-- What the text begins with. -/
  opening : List Char
  /-- What it ends with. -/
  mark : List Char
  /-- Whether an occurrence of the mark is the end, by the text between. -/
  closes : List Char → Prop

namespace Delimiters

/-- Two equal marks; one after an odd number of backslashes is no end. -/
def quotes (mark : Char) : Delimiters where
  opening := [mark]
  mark := [mark]
  closes body := Rule.backslashesAtEnd body % 2 = 0

/-- Brackets around a name. -/
def brackets : Delimiters where
  opening := ['[']
  mark := [']']
  closes _ := True

/-- The marks of a comment over several lines. -/
def commentMarks : Delimiters where
  opening := ['/', '*']
  mark := ['*', '/']
  closes _ := True

/-- The delimiters of all texts with an end. -/
def all : List Delimiters :=
  [quotes '\'', quotes '"', quotes '\x60', brackets, commentMarks]

/-- The text is opened, and nothing in it is the end. -/
def LacksEnd (d : Delimiters) (text : List Char) : Prop :=
  ∃ content, text = d.opening ++ content ∧ HasNoEnd d.closes d.mark content

end Delimiters

/-- The text is a quoted text, a bracketed name or a comment without an end. -/
def IsUnterminated (text : List Char) : Prop :=
  ∃ d ∈ Delimiters.all, d.LacksEnd text

/-- A text without an end begins with a quote, a bracket, or a slash and an asterisk. -/
theorem IsUnterminated.opening {text : List Char} (h : IsUnterminated text) :
  ∃ opening ∈ [['\''], ['"'], ['\x60'], ['['], ['/', '*']], opening <+: text
  := by
  obtain ⟨d, hd, content, rfl, -⟩ := h
  use d.opening
  constructor
  · apply List.mem_map_of_mem (f := Delimiters.opening) hd
  · apply List.prefix_append

/-! ### Numbers that break off -/

/-- The text begins with a digit, or with a point and a digit. -/
def StartsNumber (text : List Char) : Prop :=
  (∃ c ∈ text.head?, c.isDigit = true) ∨ ∃ c rest, text = '.' :: c :: rest ∧ c.isDigit = true

/-- The text is the start of a number up to the letter of an exponent or the sign after it. -/
def IsBrokenOff (text : List Char) : Prop :=
  ∃ mantissa letter sign, text = mantissa ++ letter :: sign ∧ StartsNumber mantissa
    ∧ Rule.IsMantissa mantissa ∧ (letter = 'e' ∨ letter = 'E') ∧ sign ∈ [[], ['+'], ['-']]

theorem StartsNumber.append {text : List Char} (h : StartsNumber text) (more : List Char) :
  StartsNumber (text ++ more)
  := by
  rcases h with ⟨c, hc, hdigit⟩ | ⟨c, rest, rfl, hdigit⟩
  · left
    obtain ⟨rest, rfl⟩ := List.head?_eq_some_iff.mp hc
    use c, rfl
  · right
    use c, rest ++ more, rfl

/-- What is the longest mantissa of the start of a number starts a number itself. -/
theorem StartsNumber.mantissa {text mantissa : List Char} (h : StartsNumber text)
    (hlongest : IsLongestStart Rule.IsMantissa text mantissa) :
  StartsNumber mantissa
  := by
  rcases h with ⟨c, hc, hdigit⟩ | ⟨c, rest, rfl, hdigit⟩
  · obtain ⟨rest, rfl⟩ := List.head?_eq_some_iff.mp hc
    have hone : Rule.IsMantissa [c] := by
      apply isMantissa_of_digits
      simpa using hdigit
    obtain ⟨more, rfl⟩ := hlongest.prefix_of_holds (List.prefix_append [c] rest) hone
    left
    use c, rfl
  · have hwhole : ∀ d ∈ ([] : List Char), d.isDigit = true := by
      intro d hd
      contradiction
    have hfraction : ∀ d ∈ [c], d.isDigit = true := by simpa using hdigit
    have hpoint : Rule.IsMantissa ['.', c] := (isMantissa_point hwhole hfraction).1
    obtain ⟨more, rfl⟩ := hlongest.prefix_of_holds (List.prefix_append ['.', c] rest) hpoint
    right
    use c, more, rfl

/-- No text without an end is a number that breaks off: numbers begin otherwise. -/
theorem not_isUnterminated_of_isBrokenOff {text : List Char} (h : IsBrokenOff text) :
  ¬ IsUnterminated text
  := by
  intro hunterminated
  obtain ⟨mantissa, letter, sign, rfl, hstarts, -⟩ := h
  obtain ⟨opening, hopening, hprefix⟩ := hunterminated.opening
  have hopened : ∃ c ∈ (mantissa ++ letter :: sign).head?, c ∈ ['\'', '"', '\x60', '[', '/'] := by
    obtain ⟨content, hcontent⟩ := hprefix
    rw [← hcontent]
    fin_cases hopening <;> simp
  obtain ⟨c, hc, hmem⟩ := hopened
  rcases hstarts.append (letter :: sign) with ⟨d, hd, hdigit⟩ | ⟨d, rest, htext, -⟩
  · obtain rfl := Option.mem_unique hc hd
    fin_cases hmem <;> contradiction
  · rw [htext] at hc
    cases hc
    contradiction

/-! ### What becomes of the reading -/

/-- What becomes of the reading at a lexeme. -/
inductive Lexeme.Outcome (x : Lexeme) : Prop
  /-- The lexeme is well formed, and the reading goes on. -/
  | wellFormed : x.kind ≠ .error → x.halts = false → Outcome x
  /-- The lexeme lacks its end, nothing is left, and the reading halts. -/
  | unterminated : x.kind = .error → x.halts = true → IsUnterminated x.text → x.rest = [] →
    Outcome x
  /-- The lexeme breaks off before something that is no digit, and the reading goes on. -/
  | brokenOff : x.kind = .error → x.halts = false → IsBrokenOff x.text →
    (∀ c ∈ x.rest.head?, c.isDigit = false) → Outcome x

namespace Rule

variable {text : List Char} {x : Lexeme}

theorem outcome_longest {applies P : List Char → Prop} {kind : List Char → TokenKind}
    (hkind : ∀ s, kind s ≠ .error) (h : (longest applies P kind).cuts text x) :
  x.Outcome
  := by
  obtain ⟨-, -, hk, hhalts⟩ := h
  apply Lexeme.Outcome.wellFormed _ hhalts
  rw [hk]
  apply hkind

theorem outcome_delimited {kind : TokenKind} {d : Delimiters} (hkind : kind ≠ .error)
    (hd : d ∈ Delimiters.all) (h : (delimited kind d.opening d.mark d.closes).cuts text x) :
  x.Outcome
  := by
  obtain ⟨content, rfl, ⟨body, after, -, rfl⟩ | ⟨hnone, rfl⟩⟩ := h
  · apply Lexeme.Outcome.wellFormed hkind rfl
  · apply Lexeme.Outcome.unterminated rfl rfl _ rfl
    use d, hd, content

theorem outcome_number (happlies : number.applies text) (h : number.cuts text x) :
  x.Outcome
  := by
  cases h with
  | plain => apply Lexeme.Outcome.wellFormed (by simp) rfl
  | @scaled mantissa sign digits rest letter ht hm hl hs hd =>
    by_cases hdigits : digits = []
    · subst hdigits
      apply Lexeme.Outcome.brokenOff (by simp) rfl
      · use mantissa, letter, sign
        rw [List.append_nil]
        use rfl, StartsNumber.mantissa happlies hm, hm.holds, hl, hs.holds
      · intro c hc
        obtain ⟨more, rfl⟩ := List.head?_eq_some_iff.mp hc
        -- A digit would make the longest run of digits longer than it is.
        by_contra hdigit
        have hlength := hd.length_le [c] (List.prefix_append [c] more) (by simpa using hdigit)
        contradiction
    · apply Lexeme.Outcome.wellFormed _ rfl
      simp [hdigits]

theorem classOf_ne_error (word : List Char) :
  classOf word ≠ .error
  := by
  rw [classOf_eq_wordKind]
  apply wordKind_ne_error

theorem kindOfOther_ne_error (s : List Char) :
  kindOfOther s ≠ .error
  := by
  unfold kindOfOther
  split <;> decide

/-- What becomes of the reading at a lexeme that a rule cuts off. -/
theorem outcome_of_mem_rules {r : Rule} (hr : r ∈ rules) (happlies : r.applies text)
    (hcuts : r.cuts text x) :
  x.Outcome
  := by
  fin_cases hr
  · apply outcome_longest _ hcuts
    simp
  · apply outcome_longest _ hcuts
    simp
  · apply outcome_delimited (d := .commentMarks) (by decide) (by simp [Delimiters.all]) hcuts
  · apply outcome_delimited (d := .quotes '\'') (by decide) (by simp [Delimiters.all]) hcuts
  · apply outcome_delimited (d := .quotes '"') (by decide) (by simp [Delimiters.all]) hcuts
  · apply outcome_delimited (d := .quotes '\x60') (by decide) (by simp [Delimiters.all]) hcuts
  · apply outcome_delimited (d := .brackets) (by decide) (by simp [Delimiters.all]) hcuts
  · apply outcome_number happlies hcuts
  · apply outcome_longest _ hcuts
    simp
  · apply outcome_longest _ hcuts
    simp
  · apply outcome_longest _ hcuts
    simp
  · apply outcome_longest _ hcuts
    simp
  · apply outcome_longest _ hcuts
    simp
  · apply outcome_longest classOf_ne_error hcuts
  · apply outcome_longest kindOfOther_ne_error hcuts

end Rule

/-- Every lexeme that is read is well formed, or lacks its end and halts the reading, or breaks off
and does not. -/
theorem outcome_of_lexeme? {text : List Char} {x : Lexeme} (h : lexeme? text = some x) :
  x.Outcome
  := by
  obtain ⟨r, hr, happlies, hcuts⟩ := (lexeme?_eq_some_iff.mp h).exists_cuts
  apply Rule.outcome_of_mem_rules hr happlies hcuts

/-- The token is a quoted text, a bracketed name or a comment that lacks its end. -/
def Token.IsUnterminated (t : Token) : Prop :=
  t.kind = .error ∧ Sql.IsUnterminated t.text.toList

/-- The reading halts at a token if and only if the token lacks its end. -/
theorem halts_iff_isUnterminated {text : List Char} {x : Lexeme} (h : lexeme? text = some x)
    (offset : Nat) :
  x.halts = true ↔ (Lexer.tokenAt offset x).IsUnterminated
  := by
  rw [Token.IsUnterminated, Lexer.tokenAt, String.toList_ofList]
  cases outcome_of_lexeme? h with
  | wellFormed hkind hhalts => simp [hkind, hhalts]
  | unterminated hkind hhalts htext => simp [hkind, hhalts, htext]
  | brokenOff hkind hhalts htext =>
    simp [hhalts, not_isUnterminated_of_isBrokenOff htext]

end SqlScribe.Sql
