import SqlScribe.Json.Printer
import SqlScribe.Sql.Token
import SqlScribe.Text.Escaped

/-!
# Listings of tokens

Tokens are listed one to a line, each with its kind and its escaped text, or as a JSON
array of objects with their kinds, texts and spans.
-/

namespace SqlScribe.CommandLine

open Sql

/-- The line of a token. -/
def tokenLine (t : Token) : String :=
  t.kind.name ++ "\t" ++ Text.Escaped.quoted t.text ++ "\n"

/-- The lines of tokens. -/
def tokenLines (tokens : List Token) : String :=
  String.join (tokens.map tokenLine)

/-- The object of a span. -/
def spanJson (span : Span) : Json :=
  .object [("start", .natural span.start), ("end", .natural span.stop)]

/-- The object of a token. -/
def tokenJson (t : Token) : Json :=
  .object [("kind", .string t.kind.name), ("text", .string t.text), ("span", spanJson t.span)]

/-- The JSON array of tokens. -/
def tokenArray (tokens : List Token) : String :=
  (Json.array (tokens.map tokenJson)).pretty 0

end SqlScribe.CommandLine
