import SqlScribe.Schema.Table

/-!
# Native types

How each dialect writes the column types.  A dialect lists native types for some column
types, says of each whether a length follows it, and has one further type for all the
others.  `Field.nativeText` is the complete type of a column, with the length or precision
and the scale where the dialect wants them.  The dialects also differ in how a column is
counted up: by a modifier, as an identity column, as a part of the key clause, or by a
sequence with a trigger.
-/

namespace SqlScribe

/-- A type of a dialect. -/
structure NativeType where
  /-- The name of the type. -/
  name : String
  /-- Whether a length follows the name. -/
  sized : Bool := false
  deriving Repr, DecidableEq

/-- The ways of counting up the values of a column. -/
inductive AutoIncrementStrategy where
  /-- A modifier of the column. -/
  | modifier
  /-- An identity column. -/
  | identity
  /-- A modifier of the key clause of the column. -/
  | keyModifier
  /-- A sequence, and a trigger that draws from it. -/
  | sequenceTrigger
  deriving Repr, DecidableEq

namespace Dialect

/-- The types that MySQL lists. -/
def mySqlType? : ColumnType → Option NativeType
  | .tinyInt => some ⟨"TINYINT", false⟩
  | .smallInt => some ⟨"SMALLINT", false⟩
  | .int => some ⟨"INT", false⟩
  | .bigInt => some ⟨"BIGINT", false⟩
  | .decimal => some ⟨"DECIMAL", true⟩
  | .numeric => some ⟨"DECIMAL", true⟩
  | .float => some ⟨"FLOAT", false⟩
  | .double => some ⟨"DOUBLE", false⟩
  | .boolean => some ⟨"BOOLEAN", false⟩
  | .char => some ⟨"CHAR", true⟩
  | .varchar => some ⟨"VARCHAR", true⟩
  | .text => some ⟨"TEXT", false⟩
  | .date => some ⟨"DATE", false⟩
  | .time => some ⟨"TIME", false⟩
  | .dateTime => some ⟨"DATETIME", false⟩
  | .timestamp => some ⟨"TIMESTAMP", false⟩
  | .json => some ⟨"JSON", false⟩
  | .enum => some ⟨"VARCHAR", true⟩
  | .blob => some ⟨"BLOB", false⟩
  | .uuid => some ⟨"CHAR(36)", false⟩

/-- The types that PostgreSQL lists. -/
def postgreSqlType? : ColumnType → Option NativeType
  | .tinyInt => some ⟨"SMALLINT", false⟩
  | .smallInt => some ⟨"SMALLINT", false⟩
  | .int => some ⟨"INTEGER", false⟩
  | .bigInt => some ⟨"BIGINT", false⟩
  | .decimal => some ⟨"NUMERIC", true⟩
  | .numeric => some ⟨"NUMERIC", true⟩
  | .float => some ⟨"REAL", false⟩
  | .double => some ⟨"DOUBLE PRECISION", false⟩
  | .boolean => some ⟨"BOOLEAN", false⟩
  | .char => some ⟨"CHAR", true⟩
  | .varchar => some ⟨"VARCHAR", true⟩
  | .text => some ⟨"TEXT", false⟩
  | .date => some ⟨"DATE", false⟩
  | .time => some ⟨"TIME", false⟩
  | .dateTime => some ⟨"TIMESTAMP", false⟩
  | .timestamp => some ⟨"TIMESTAMP", false⟩
  | .json => some ⟨"JSONB", false⟩
  | .enum => some ⟨"VARCHAR", true⟩
  | .blob => some ⟨"BYTEA", false⟩
  | .uuid => some ⟨"UUID", false⟩

/-- The types that SQLite lists. -/
def sqliteType? : ColumnType → Option NativeType
  | .tinyInt => some ⟨"INTEGER", false⟩
  | .smallInt => some ⟨"INTEGER", false⟩
  | .int => some ⟨"INTEGER", false⟩
  | .bigInt => some ⟨"INTEGER", false⟩
  | .decimal => some ⟨"NUMERIC", false⟩
  | .numeric => some ⟨"NUMERIC", false⟩
  | .float => some ⟨"REAL", false⟩
  | .double => some ⟨"REAL", false⟩
  | .boolean => some ⟨"INTEGER", false⟩
  | .blob => some ⟨"BLOB", false⟩
  | _ => none

/-- The types that Oracle Database lists. -/
def oracleType? : ColumnType → Option NativeType
  | .tinyInt => some ⟨"NUMBER(3)", false⟩
  | .smallInt => some ⟨"NUMBER(5)", false⟩
  | .int => some ⟨"NUMBER(10)", false⟩
  | .bigInt => some ⟨"NUMBER(19)", false⟩
  | .decimal => some ⟨"NUMBER", true⟩
  | .numeric => some ⟨"NUMBER", true⟩
  | .float => some ⟨"BINARY_FLOAT", false⟩
  | .double => some ⟨"BINARY_DOUBLE", false⟩
  | .boolean => some ⟨"NUMBER(1)", false⟩
  | .char => some ⟨"CHAR", true⟩
  | .varchar => some ⟨"VARCHAR2", true⟩
  | .text => some ⟨"CLOB", false⟩
  | .date => some ⟨"DATE", false⟩
  | .dateTime => some ⟨"TIMESTAMP", false⟩
  | .timestamp => some ⟨"TIMESTAMP", false⟩
  | .json => some ⟨"CLOB", false⟩
  | .enum => some ⟨"VARCHAR2", true⟩
  | .blob => some ⟨"BLOB", false⟩
  | .uuid => some ⟨"VARCHAR2(36)", false⟩
  | _ => none

/-- The type that a dialect lists for a column type. -/
def nativeType? : Dialect → ColumnType → Option NativeType
  | mySql => mySqlType?
  | postgreSql => postgreSqlType?
  | sqlite => sqliteType?
  | oracle => oracleType?

/-- The type of a dialect for the column types that it does not list. -/
def fallbackType : Dialect → String
  | mySql => "VARCHAR(255)"
  | postgreSql => "TEXT"
  | sqlite => "TEXT"
  | oracle => "VARCHAR2(255)"

/-- The name of the type of a dialect for a column type. -/
def typeName (d : Dialect) (t : ColumnType) : String :=
  ((d.nativeType? t).map (·.name)).getD d.fallbackType

/-- Whether a length follows the type of a dialect for a column type. -/
def needsLength (d : Dialect) (t : ColumnType) : Bool :=
  (d.nativeType? t).any (·.sized)

/-- How a dialect counts up the values of a column. -/
def autoIncrementStrategy : Dialect → AutoIncrementStrategy
  | mySql => .modifier
  | postgreSql => .identity
  | sqlite => .keyModifier
  | oracle => .sequenceTrigger

end Dialect

/-- Whether the name of a native type is that of an integer type, whatever the case of its
ASCII letters. -/
def isIntegerTypeName (name : String) : Bool :=
  ["SMALLINT", "INT", "INTEGER", "BIGINT"].contains (String.ofList (name.toList.map Char.toUpper))

/-- The complete type of a column in a dialect. -/
def Field.nativeText (d : Dialect) (f : Field) : String :=
  let name := d.typeName f.type
  if !d.needsLength f.type then name
  else
    let length := toString (f.length.getD f.type.defaultLength).toNat
    if f.type.isDecimal then
      name ++ "(" ++ length ++ ", " ++ toString f.decimalScale.toNat ++ ")"
    else name ++ "(" ++ length ++ ")"

end SqlScribe
