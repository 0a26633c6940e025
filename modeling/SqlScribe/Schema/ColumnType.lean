import SqlScribe.Text.Blank

/-!
# Column types

The types of columns, independent of any dialect.  A type is found by its name or by an
alias of it, whatever the case of the ASCII letters and the blank characters around it.
Integer types are the only ones whose values a database can count up; the numeric types
are those whose values are written without quotes, and the temporal types those with a
calendar date.
-/

namespace SqlScribe

/-- The types of columns. -/
inductive ColumnType where
  /-- Integers of 8 bits. -/
  | tinyInt
  /-- Integers of 16 bits. -/
  | smallInt
  /-- Integers of 32 bits. -/
  | int
  /-- Integers of 64 bits. -/
  | bigInt
  /-- Fixed-point numbers. -/
  | decimal
  /-- Fixed-point numbers, by their other name. -/
  | numeric
  /-- Binary numbers of single precision. -/
  | float
  /-- Binary numbers of double precision. -/
  | double
  /-- Truth values. -/
  | boolean
  /-- Texts of a fixed length. -/
  | char
  /-- Texts of a bounded length. -/
  | varchar
  /-- Texts of any length. -/
  | text
  /-- Calendar dates. -/
  | date
  /-- Times of day. -/
  | time
  /-- Dates with a time of day. -/
  | dateTime
  /-- Points in time. -/
  | timestamp
  /-- JSON documents. -/
  | json
  /-- Texts from a fixed set. -/
  | enum
  /-- Binary data. -/
  | blob
  /-- Universally unique identifiers. -/
  | uuid
  deriving Repr, DecidableEq

namespace ColumnType

/-- All column types. -/
def all : List ColumnType :=
  [tinyInt, smallInt, int, bigInt, decimal, numeric, float, double, boolean, char, varchar, text,
    date, time, dateTime, timestamp, json, enum, blob, uuid]

/-- The name of a type. -/
def name : ColumnType → String
  | tinyInt => "TINYINT"
  | smallInt => "SMALLINT"
  | int => "INT"
  | bigInt => "BIGINT"
  | decimal => "DECIMAL"
  | numeric => "NUMERIC"
  | float => "FLOAT"
  | double => "DOUBLE"
  | boolean => "BOOLEAN"
  | char => "CHAR"
  | varchar => "VARCHAR"
  | text => "TEXT"
  | date => "DATE"
  | time => "TIME"
  | dateTime => "DATETIME"
  | timestamp => "TIMESTAMP"
  | json => "JSON"
  | enum => "ENUM"
  | blob => "BLOB"
  | uuid => "UUID"

/-- The other names that are read as a type. -/
def aliases : ColumnType → List String
  | int => ["INTEGER"]
  | boolean => ["BOOL"]
  | varchar => ["STRING"]
  | _ => []

/-- The type of a name, if there is one. -/
def ofName? (text : String) : Option ColumnType :=
  let upper := String.ofList ((Text.trim text.toList).map Char.toUpper)
  all.find? fun t => t.name == upper || t.aliases.contains upper

/-- Whether the values of a type are integers. -/
def isInteger : ColumnType → Bool
  | tinyInt | smallInt | int | bigInt => true
  | _ => false

/-- Whether a type is written with a precision and a scale. -/
def isDecimal : ColumnType → Bool
  | decimal | numeric => true
  | _ => false

/-- Whether the values of a type are numbers. -/
def isNumeric (t : ColumnType) : Bool :=
  t.isInteger || t.isDecimal || t == float || t == double

/-- Whether the values of a type have a calendar date. -/
def isTemporal : ColumnType → Bool
  | date | dateTime | timestamp => true
  | _ => false

/-- The length of a type that needs one and is given none. -/
def defaultLength : ColumnType → UInt32
  | char => 1
  | decimal | numeric => 10
  | _ => 255

end ColumnType

/-- A name that is the name of no column type. -/
structure UnknownColumnType where
  /-- The name as it was given. -/
  name : String
  deriving Repr, DecidableEq

/-- What is said about a name that is the name of no column type. -/
def UnknownColumnType.message (e : UnknownColumnType) : String :=
  "unknown column type: '" ++ e.name ++ "'"

/-- The column type of a name, or the reason that there is none. -/
def ColumnType.ofName (text : String) : Except UnknownColumnType ColumnType :=
  match ofName? text with
  | some t => .ok t
  | none => .error ⟨text⟩

end SqlScribe
