import SqlScribe.Dialect

/-!
# Fragments of statements

A statement is a list of fragments: code that is written as it stands, names that are
quoted as identifiers, and texts that are quoted as string literals.  Only the last two
hold the names and texts of a table and its rows as they are given, so the quoting of a
dialect decides what such a name or text can do to a statement.
-/

namespace SqlScribe.Statement

/-- A part of a statement. -/
inductive Fragment where
  /-- Code that is written as it stands. -/
  | code (text : String)
  /-- A name that is quoted as an identifier. -/
  | identifier (name : String)
  /-- A text that is quoted as a string literal. -/
  | literal (text : String)
  deriving Repr, DecidableEq

/-- A fragment as a dialect writes it. -/
def Fragment.write (d : Dialect) : Fragment → List Char
  | code text => text.toList
  | identifier name => d.identifierStyle.encode name.toList
  | literal text => d.literalStyle.encode text.toList

/-- Fragments as a dialect writes them, one after the other. -/
def write (d : Dialect) (fragments : List Fragment) : String :=
  String.ofList (fragments.flatMap (·.write d))

/-- Lists of fragments with a separator between them. -/
def separatedBy (separator : String) (parts : List (List Fragment)) : List Fragment :=
  [.code separator].intercalate parts

/-- Names with commas between them. -/
def columnList (names : List String) : List Fragment :=
  separatedBy ", " (names.map fun name => [.identifier name])

end SqlScribe.Statement
