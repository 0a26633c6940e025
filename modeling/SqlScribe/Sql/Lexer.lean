import SqlScribe.Sql.Lexeme
import SqlScribe.Text.Bytes

/-!
# Reading tokens

A `Lexer` is a place in SQL text: what is left of the text, the offset of what is left, and
whether the reading has halted at a quoted text or a comment without an end.
`Lexer.next?` takes the next token and returns the place after it, and `tokenize` takes
all tokens of a text.  The last token of a halted reading has taken everything that was
left, so a place at which nothing can be read stays as it is.
-/

namespace SqlScribe.Sql

/-- A place in SQL text. -/
structure Lexer where
  /-- The text from the place on. -/
  rest : List Char
  /-- The number of bytes before the place. -/
  offset : Nat
  /-- Whether the token before the place lacked its end. -/
  halted : Bool
  deriving Repr, DecidableEq

namespace Lexer

/-- The place before a text. -/
def ofSource (source : String) : Lexer where
  rest := source.toList
  offset := 0
  halted := false

/-- The token of a lexeme that is found at an offset. -/
def tokenAt (offset : Nat) (x : Lexeme) : Token where
  kind := x.kind
  text := String.ofList x.text
  span := ⟨offset, offset + Text.byteLength x.text⟩

/-- The place after a lexeme that is found at an offset. -/
def after (offset : Nat) (x : Lexeme) : Lexer where
  rest := x.rest
  offset := offset + Text.byteLength x.text
  halted := x.halts

/-- The token at a place, with the place after it. -/
def next? (l : Lexer) : Option (Token × Lexer) :=
  if l.halted then none
  else (lexeme? l.rest).map fun x => (tokenAt l.offset x, after l.offset x)

/-- Less text is left after a token. -/
theorem length_rest_lt_of_next? {l l' : Lexer} {t : Token} (h : l.next? = some (t, l')) :
  l'.rest.length < l.rest.length
  := by
  rw [next?] at h
  split at h
  · simp at h
  · obtain ⟨x, hx, hp⟩ := Option.map_eq_some_iff.1 h
    cases hp
    exact length_rest_lt_of_lexeme? hx

/-- Up to `count` tokens from a place on, with the place after them. -/
def take : Nat → Lexer → List Token × Lexer
  | 0, l => ([], l)
  | count + 1, l =>
    match l.next? with
    | none => ([], l)
    | some (t, l') =>
      let (tokens, last) := take count l'
      (t :: tokens, last)

/-- All tokens from a place on. -/
def tokens (l : Lexer) : List Token :=
  match _h : l.next? with
  | none => []
  | some (t, l') => t :: l'.tokens
termination_by l.rest.length
decreasing_by exact length_rest_lt_of_next? _h

/-- The place at which no token is left. -/
def last (l : Lexer) : Lexer :=
  match _h : l.next? with
  | none => l
  | some (_, l') => l'.last
termination_by l.rest.length
decreasing_by exact length_rest_lt_of_next? _h

end Lexer

/-- The tokens of SQL text. -/
def tokenize (source : String) : List Token :=
  (Lexer.ofSource source).tokens

end SqlScribe.Sql
