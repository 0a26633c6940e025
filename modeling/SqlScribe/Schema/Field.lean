import SqlScribe.Schema.ColumnType

/-!
# Fields

A field describes one column of a table: its name and type, what is said about its size, and
which constraints hold of its values.  The flags of a field are independent of each other,
so a primary key can be marked as nullable; such a column rejects nulls all the same.
-/

namespace SqlScribe

/-- A column of a table. -/
structure Field where
  /-- The name of the column. -/
  name : String
  /-- The type of its values. -/
  type : ColumnType
  /-- The length or precision, for the types that have one. -/
  length : Option UInt32 := none
  /-- The number of digits after the point, for the types that have one. -/
  scale : Option UInt32 := none
  /-- Whether nulls are allowed. -/
  nullable : Bool := true
  /-- Whether the column belongs to the primary key. -/
  primaryKey : Bool := false
  /-- Whether no value may come twice. -/
  unique : Bool := false
  /-- Whether the database counts the values up. -/
  autoIncrement : Bool := false
  /-- What the column is for. -/
  description : Option String := none
  deriving Repr, DecidableEq

namespace Field

/-- The field as a part of the primary key, where nulls are not allowed. -/
def asPrimaryKey (f : Field) : Field :=
  { f with primaryKey := true, nullable := false }

/-- Whether the column rejects nulls: it is marked so, or it belongs to the primary key. -/
def isNotNull (f : Field) : Bool :=
  !f.nullable || f.primaryKey

/-- The scale of a fixed-point column, which is two unless it is given. -/
def decimalScale (f : Field) : UInt32 :=
  f.scale.getD 2

/-- The description, unless it is blank. -/
def comment? (f : Field) : Option String :=
  f.description.filter fun text => !Text.isBlankText text

end Field

end SqlScribe
