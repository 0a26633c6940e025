import SqlScribe.Dialect
import SqlScribe.Schema.Field

/-!
# Tables

A table has a name, its fields in the order of the columns, and the dialect that its
statements are written in.  Two questions about its keys decide how they are declared: which
fields belong to the primary key, and whether they are more than one.
-/

namespace SqlScribe

/-- A table. -/
structure Table where
  /-- The name of the table. -/
  name : String
  /-- The fields, in the order of the columns. -/
  fields : List Field := []
  /-- The dialect of the statements about the table. -/
  dialect : Dialect := default
  deriving Repr, DecidableEq

namespace Table

/-- The table with one more field at the end. -/
def push (t : Table) (f : Field) : Table :=
  { t with fields := t.fields ++ [f] }

/-- The table with its statements in another dialect. -/
def withDialect (t : Table) (d : Dialect) : Table :=
  { t with dialect := d }

/-- The first field of a name. -/
def field? (t : Table) (name : String) : Option Field :=
  t.fields.find? fun f => f.name == name

/-- The fields of the primary key. -/
def primaryKeyFields (t : Table) : List Field :=
  t.fields.filter fun f => f.primaryKey

/-- Whether the primary key consists of several fields. -/
def hasCompoundKey (t : Table) : Bool :=
  1 < t.primaryKeyFields.length

/-- The fields that the database counts up. -/
def autoIncrementFields (t : Table) : List Field :=
  t.fields.filter fun f => f.autoIncrement

end Table

end SqlScribe
