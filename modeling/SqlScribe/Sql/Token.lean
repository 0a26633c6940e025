/-!
# Tokens

A token is a piece of SQL text with its kind and its place.  Places are counted in bytes of
the UTF-8 encoding, from the start of the text; a span runs from its first byte up to the
byte after its last one.
-/

namespace SqlScribe.Sql

/-- What a token is. -/
inductive TokenKind where
  /-- A reserved word. -/
  | keyword
  /-- The name of a built-in function. -/
  | function
  /-- The name of a type. -/
  | datatype
  /-- An operator. -/
  | operator
  /-- A number. -/
  | number
  /-- A string literal. -/
  | string
  /-- A quoted or unquoted name. -/
  | identifier
  /-- A comment. -/
  | comment
  /-- An ASCII punctuation character of no other kind. -/
  | punctuation
  /-- A number with an unfinished exponent, or a quoted text or comment without an end. -/
  | error
  /-- A run of blank characters. -/
  | whitespace
  /-- A parenthesis. -/
  | parenthesis
  /-- A comma. -/
  | comma
  /-- A semicolon. -/
  | semicolon
  /-- Any other character. -/
  | other
  deriving Repr, DecidableEq

/-- The name of a kind in listings. -/
def TokenKind.name : TokenKind → String
  | keyword => "keyword"
  | function => "function"
  | datatype => "datatype"
  | operator => "operator"
  | number => "number"
  | string => "string"
  | identifier => "identifier"
  | comment => "comment"
  | punctuation => "punctuation"
  | error => "error"
  | whitespace => "whitespace"
  | parenthesis => "parenthesis"
  | comma => "comma"
  | semicolon => "semicolon"
  | other => "default"

/-- A range of bytes. -/
structure Span where
  /-- The offset of the first byte. -/
  start : Nat
  /-- The offset of the byte after the last one. -/
  stop : Nat
  deriving Repr, DecidableEq

/-- The number of bytes in a range. -/
def Span.length (span : Span) : Nat :=
  span.stop - span.start

/-- Whether a range holds no byte. -/
def Span.isEmpty (span : Span) : Bool :=
  span.start == span.stop

/-- A piece of SQL text. -/
structure Token where
  /-- What the piece is. -/
  kind : TokenKind
  /-- The piece itself. -/
  text : String
  /-- The bytes that the piece takes in the whole text. -/
  span : Span
  deriving Repr, DecidableEq

/-- Whether the token is malformed. -/
def Token.isError (t : Token) : Bool :=
  t.kind == .error

end SqlScribe.Sql
