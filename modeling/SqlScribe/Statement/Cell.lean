import SqlScribe.Calendar.Timestamp
import SqlScribe.Schema.NativeType
import SqlScribe.Schema.Value
import SqlScribe.Statement.Fragment

/-!
# Cells

A cell is a value as it stands in an INSERT statement, for a column and a dialect.  There is
no value where none is given or SQL cannot write it.  Columns of numbers hold numbers and
columns of truth values hold truth values, as far as the value can be taken for one; all
other values are texts.  The texts of some columns are cast to the type of the column, and
one dialect reads texts with a calendar date by a mask, for which the text is brought into
the layout of the mask if it can be read as a timestamp.
-/

namespace SqlScribe

/-- A truth value as a dialect writes it. -/
def Dialect.booleanLiteral (d : Dialect) (b : Bool) : String :=
  match d with
  | postgreSql => if b then "TRUE" else "FALSE"
  | _ => if b then "1" else "0"

/-- What a dialect writes after the text of a value to cast it to the type of its column. -/
def Dialect.castSuffix? (d : Dialect) (t : ColumnType) : Option String :=
  match d with
  | postgreSql =>
    if t.isTemporal then some "::timestamp" else if t == .json then some "::jsonb" else none
  | _ => none

namespace Statement

/-- A value in an INSERT statement. -/
inductive Cell where
  /-- No value. -/
  | null
  /-- A number, as it is written. -/
  | number (text : String)
  /-- A truth value. -/
  | boolean (b : Bool)
  /-- A text, with the cast after it. -/
  | text (s : String) (cast : Option String)
  /-- A text that is read by the timestamp mask. -/
  | timestamp (s : String)
  deriving Repr, DecidableEq

namespace Cell

/-- The layout in which timestamps are read. -/
def timestampMask : String :=
  "YYYY-MM-DD HH24:MI:SS"

/-- The cell of a text in a column of neither numbers nor truth values. -/
def ofText (d : Dialect) (t : ColumnType) (s : String) : Cell :=
  if d == .oracle && t.isTemporal then timestamp ((Calendar.normalizeTimestamp? s).getD s)
  else text s (d.castSuffix? t)

/-- The cell of a value that SQL can write. -/
def ofWritable (d : Dialect) (t : ColumnType) (v : Value) : Cell :=
  if t.isNumeric then
    match v.asNumber? with
    | some n => number n
    | none => text v.display none
  else if t == .boolean then
    match v.asBool? with
    | some b => boolean b
    | none => text v.display none
  else ofText d t v.display

/-- The cell of a value, or of its absence, in a column of a type. -/
def ofValue (d : Dialect) (t : ColumnType) : Option Value → Cell
  | none => null
  | some v => if v.isNullLike then null else ofWritable d t v

/-- The cell as a part of a statement. -/
def fragments (d : Dialect) : Cell → List Fragment
  | null => [.code "NULL"]
  | number n => [.code n]
  | boolean b => [.code (d.booleanLiteral b)]
  | text s cast => .literal s :: (cast.map Fragment.code).toList
  | timestamp s =>
    [.code "TO_TIMESTAMP(", .literal s, .code ", ", .literal timestampMask, .code ")"]

end Cell

end Statement

end SqlScribe
