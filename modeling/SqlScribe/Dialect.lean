import SqlScribe.Text.Blank
import SqlScribe.Text.Quoted

/-!
# SQL dialects

The dialects that statements are written in, with their names and the two kinds of quoted
text that they have.  A dialect is found by its name or by an alias of it, whatever the case
of the ASCII letters and the blank characters around it; `Dialect.ofName?` accepts nothing
else, and `Dialect.ofNameOrDefault` takes any other name for the default dialect.
-/

namespace SqlScribe

/-- The dialects of SQL that statements are written in. -/
inductive Dialect where
  /-- MySQL and MariaDB. -/
  | mySql
  /-- PostgreSQL. -/
  | postgreSql
  /-- SQLite. -/
  | sqlite
  /-- Oracle Database. -/
  | oracle
  deriving Repr, DecidableEq

namespace Dialect

/-- All dialects. -/
def all : List Dialect :=
  [mySql, postgreSql, sqlite, oracle]

instance : Inhabited Dialect := ⟨mySql⟩

/-- The name that the dialect is written with. -/
def name : Dialect → String
  | mySql => "mysql"
  | postgreSql => "postgresql"
  | sqlite => "sqlite"
  | oracle => "oracle"

/-- The lower-case names that are read as the dialect. -/
def names : Dialect → List String
  | mySql => ["mysql", "mariadb"]
  | postgreSql => ["postgresql", "postgres", "pg", "pgsql"]
  | sqlite => ["sqlite", "sqlite3"]
  | oracle => ["oracle", "oracledb"]

/-- The dialect of a name, if there is one. -/
def ofName? (text : String) : Option Dialect :=
  let lower := String.ofList ((Text.trim text.toList).map Char.toLower)
  all.find? fun d => d.names.contains lower

/-- The dialect of a name, and the default one for a name of none. -/
def ofNameOrDefault (text : String) : Dialect :=
  (ofName? text).getD default

/-- How the dialect quotes identifiers. -/
def identifierStyle : Dialect → Text.Quoted.Style
  | mySql => ⟨'\x60', false⟩
  | _ => ⟨'"', false⟩

/-- How the dialect quotes string literals. -/
def literalStyle : Dialect → Text.Quoted.Style
  | mySql => ⟨'\'', true⟩
  | _ => ⟨'\'', false⟩

/-- The quoted form of an identifier. -/
def quoteIdentifier (d : Dialect) (identifier : String) : String :=
  d.identifierStyle.quote identifier

/-- The quoted form of a string literal. -/
def quoteLiteral (d : Dialect) (text : String) : String :=
  d.literalStyle.quote text

end Dialect

/-- A name that is the name of no dialect. -/
structure UnknownDialect where
  /-- The name as it was given. -/
  name : String
  deriving Repr, DecidableEq

/-- What is said about a name that is the name of no dialect. -/
def UnknownDialect.message (e : UnknownDialect) : String :=
  "unknown SQL dialect: '" ++ e.name ++ "'"

/-- The dialect of a name, or the reason that there is none. -/
def Dialect.ofName (text : String) : Except UnknownDialect Dialect :=
  match ofName? text with
  | some d => .ok d
  | none => .error ⟨text⟩

end SqlScribe
