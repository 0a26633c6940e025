import SqlScribe.Schema.Table

/-!
# Defects of tables

What can be wrong with a table, and which defect is reported.  The table needs a name and a
field.  Each field needs a name that no earlier field has, a primary key must not be
nullable, and only integers are counted up.  `Table.defect?` is the first defect: those of
the table come before those of its fields, the fields are taken in order, and the defects
of one field in the order in which they are named here.  A table without a defect is what
statements are made for.
-/

namespace SqlScribe

/-- What is wrong with a table. -/
inductive Defect where
  /-- The name of the table is blank. -/
  | emptyTableName
  /-- The table has no fields. -/
  | noFields (table : String)
  /-- The name of the field at a position is blank. -/
  | emptyFieldName (table : String) (position : Nat)
  /-- An earlier field has the same name. -/
  | duplicateField (table field : String)
  /-- A field of the primary key is marked as nullable. -/
  | nullablePrimaryKey (table field : String)
  /-- A field that is to be counted up has a type other than the integer types. -/
  | autoIncrementType (table field : String) (type : ColumnType)
  deriving Repr, DecidableEq

/-- What is said about a defect. -/
def Defect.message : Defect → String
  | emptyTableName => "table name must not be empty"
  | noFields table => "table '" ++ table ++ "' has no fields"
  | emptyFieldName table position =>
    "table '" ++ table ++ "' has a field with an empty name at position " ++ toString position
  | duplicateField table field =>
    "table '" ++ table ++ "' defines field '" ++ field ++ "' more than once"
  | nullablePrimaryKey table field =>
    "primary key field '" ++ table ++ "." ++ field ++ "' cannot be nullable"
  | autoIncrementType table field type =>
    "field '" ++ table ++ "." ++ field ++ "' of type " ++ type.name ++ " cannot auto-increment"

namespace Table

/-- The first defect of a field at a position, given the fields before it. -/
def fieldDefect? (table : String) (before : List Field) (f : Field) : Option Defect :=
  if Text.isBlankText f.name then some (.emptyFieldName table before.length)
  else if before.any fun g => g.name == f.name then some (.duplicateField table f.name)
  else if f.primaryKey && f.nullable then some (.nullablePrimaryKey table f.name)
  else if f.autoIncrement && !f.type.isInteger then
    some (.autoIncrementType table f.name f.type)
  else none

/-- The first defect among fields that follow given ones. -/
def fieldsDefect? (table : String) (before : List Field) : List Field → Option Defect
  | [] => none
  | f :: rest =>
    match fieldDefect? table before f with
    | some d => some d
    | none => fieldsDefect? table (before ++ [f]) rest

/-- The first defect of a table. -/
def defect? (t : Table) : Option Defect :=
  if Text.isBlankText t.name then some .emptyTableName
  else if t.fields.isEmpty then some (.noFields t.name)
  else fieldsDefect? t.name [] t.fields

end Table

end SqlScribe
