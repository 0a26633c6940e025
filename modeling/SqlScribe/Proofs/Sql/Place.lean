import Mathlib.Tactic.Use
import SqlScribe.Sql.Lexer

/-!
# Places in a source

The places that the reading of a source comes to: `Lexer.Reachable` is the least set of
places that contains the start of the source and, with a place, the one after the token
there.  `Lexer.IsIn` says how a place lies in a source: the text before it and the text from it
on make up the source, its offset is the length in bytes of the text before it, and nothing
is left once the reading has halted.  Every reachable place lies in the source in this way
(`Lexer.Reachable.isIn`), because a lexeme that lacks its end takes all that is left
(`rest_eq_nil_of_halts`) and any other moves the place by its own bytes.
-/

namespace SqlScribe.Sql

open Text

/-! ### Lexemes that halt the reading -/

namespace Lexeme

/-- If the reading halts at the lexeme, then nothing is left after it. -/
def HaltsAtEnd (x : Lexeme) : Prop :=
  x.halts = true → x.rest = []

theorem ofSplit_haltsAtEnd (kind : TokenKind) (split : List Char × List Char) :
  (ofSplit kind split).HaltsAtEnd
  := by
  intro h
  contradiction

theorem delimited_haltsAtEnd (kind : TokenKind) (opening rest : List Char)
    (split : Option (List Char × List Char)) :
  (delimited kind opening rest split).HaltsAtEnd
  := by
  intro h
  cases split with
  | none => rfl
  | some s => simp [delimited] at h

end Lexeme

theorem numberLexeme_haltsAtEnd (text : List Char) :
  (numberLexeme text).HaltsAtEnd
  := by
  intro h
  unfold numberLexeme at h
  split at h
  split at h
  · contradiction
  · split at h <;> contradiction

theorem plainLexeme_haltsAtEnd (c : Char) (rest : List Char) :
  (plainLexeme c rest).HaltsAtEnd
  := by
  unfold plainLexeme
  split
  · apply Lexeme.ofSplit_haltsAtEnd
  · split
    · apply Lexeme.ofSplit_haltsAtEnd
    · split <;> apply Lexeme.ofSplit_haltsAtEnd

theorem lexemeAt_haltsAtEnd (c : Char) (rest : List Char) :
  (lexemeAt c rest).HaltsAtEnd
  := by
  unfold lexemeAt
  split
  · apply Lexeme.ofSplit_haltsAtEnd
  split
  · apply Lexeme.ofSplit_haltsAtEnd
  split
  · apply Lexeme.delimited_haltsAtEnd
  split
  · apply Lexeme.delimited_haltsAtEnd
  split
  · apply Lexeme.delimited_haltsAtEnd
  split
  · apply Lexeme.delimited_haltsAtEnd
  split
  · apply numberLexeme_haltsAtEnd
  split
  · apply Lexeme.ofSplit_haltsAtEnd
  split
  · apply Lexeme.ofSplit_haltsAtEnd
  split
  · apply Lexeme.ofSplit_haltsAtEnd
  apply plainLexeme_haltsAtEnd

/-- A quoted text or a comment without an end takes everything that is left. -/
theorem rest_eq_nil_of_halts {text : List Char} {x : Lexeme} (hx : lexeme? text = some x)
    (h : x.halts = true) :
  x.rest = []
  := by
  cases text with
  | nil => simp [lexeme?] at hx
  | cons c rest =>
    cases hx
    apply lexemeAt_haltsAtEnd c rest h

/-! ### Tokens and places -/

namespace Lexer

/-- The token at a place and the place after it are those of the lexeme at the start of what
is left, unless the reading has halted. -/
theorem next?_eq_some_iff {l l' : Lexer} {t : Token} :
  l.next? = some (t, l')
    ↔ l.halted = false
      ∧ ∃ x, lexeme? l.rest = some x ∧ t = tokenAt l.offset x ∧ l' = after l.offset x
  := by
  unfold next?
  cases h : l.halted with
  | true => simp
  | false =>
    simp only [Bool.false_eq_true, ↓reduceIte, Option.map_eq_some_iff, Prod.mk.injEq, true_and]
    constructor
    · rintro ⟨x, hx, rfl, rfl⟩
      use x
    · rintro ⟨x, hx, rfl, rfl⟩
      use x

/-- No token is found only where the reading has halted or nothing is left. -/
theorem next?_eq_none_iff {l : Lexer} :
  l.next? = none ↔ l.halted = true ∨ l.rest = []
  := by
  unfold next?
  cases h : l.halted with
  | true => simp
  | false =>
    cases hr : l.rest with
    | nil => simp [lexeme?]
    | cons c rest => simp [lexeme?]

theorem tokens_of_next?_eq_none {l : Lexer} (h : l.next? = none) :
  l.tokens = []
  := by
  rw [tokens]
  split
  · rfl
  · simp_all

theorem tokens_of_next?_eq_some {l l' : Lexer} {t : Token} (h : l.next? = some (t, l')) :
  l.tokens = t :: l'.tokens
  := by
  rw [tokens]
  split
  · simp_all
  · simp_all

/-- The places that the reading of a source comes to, one token after the other. -/
inductive Reachable (source : String) : Lexer → Prop
  | start : Reachable source (ofSource source)
  | next {l l' : Lexer} {t : Token} :
    Reachable source l → l.next? = some (t, l') → Reachable source l'

/-- The place lies in a source after a text. -/
structure IsIn (l : Lexer) (source : String) (before : List Char) : Prop where
  /-- The text before the place and the text from it on make up the source. -/
  source_eq : source.toList = before ++ l.rest
  /-- The offset of the place is the length of the text before it. -/
  offset_eq : l.offset = byteLength before
  /-- Nothing is left where the reading has halted. -/
  rest_eq_nil : l.halted = true → l.rest = []

theorem isIn_ofSource (source : String) :
  (ofSource source).IsIn source []
  where
  source_eq := rfl
  offset_eq := rfl
  rest_eq_nil := by intro h; contradiction

/-- The place after a token lies after the text of the token. -/
theorem IsIn.next {l l' : Lexer} {source : String} {before : List Char} {t : Token}
    (hl : l.IsIn source before) (h : l.next? = some (t, l')) :
  l'.IsIn source (before ++ t.text.toList)
  := by
  obtain ⟨-, x, hx, rfl, rfl⟩ := next?_eq_some_iff.mp h
  constructor
  · rw [hl.source_eq, ← lexeme?_append hx]
    simp [tokenAt, after]
  · simp [tokenAt, after, hl.offset_eq, byteLength_append]
  · apply rest_eq_nil_of_halts hx

/-- Every place that the reading of a source comes to lies in the source. -/
theorem Reachable.isIn {source : String} {l : Lexer} (h : Reachable source l) :
  ∃ before, l.IsIn source before
  := by
  induction h with
  | start => exact ⟨[], isIn_ofSource source⟩
  | next _ hn ih =>
    obtain ⟨before, hl⟩ := ih
    exact ⟨_, hl.next hn⟩

end Lexer

end SqlScribe.Sql
