import SqlScribe.Document.Field
import SqlScribe.Schema.Table

/-!
# Tables as documents

A table is written as a JSON record of its name, its fields and its dialect.  The name and
the fields are required.  A dialect of an unknown name is taken for the default one and
causes no fault, so that it has to be told apart: `Table.readDocument` says which name was
given, even if a fault comes after it.
-/

namespace SqlScribe

open Json

/-- The members of the record of a table, in the order in which they are written. -/
inductive TableMember where
  /-- The name of the table. -/
  | name
  /-- The fields, as an array. -/
  | fields
  /-- The dialect, by its name. -/
  | dialect
  deriving Repr, DecidableEq

namespace TableMember

/-- All members. -/
def all : List TableMember :=
  [name, fields, dialect]

/-- The key of a member. -/
def key : TableMember → String
  | name => "name"
  | fields => "fields"
  | dialect => "dialect"

end TableMember

/-- The members of a table that have been read. -/
structure TableDraft where
  /-- The name. -/
  name : Option String := none
  /-- The fields. -/
  fields : Option (List Field) := none
  /-- The name of the dialect. -/
  dialect : Option String := none

namespace TableDraft

/-- Whether a member has been read. -/
def has (draft : TableDraft) : TableMember → Bool
  | .name => draft.name.isSome
  | .fields => draft.fields.isSome
  | .dialect => draft.dialect.isSome

/-- Reads a member into a draft. -/
def read : TableMember → TableDraft → Reader TableDraft
  | .name, d => readInto readString fun s => { d with name := some s }
  | .fields, d =>
    readInto (readList Field.format.readRecord) fun fs => { d with fields := some fs }
  | .dialect, d => readInto readString fun s => { d with dialect := some s }

/-- The table that has been read, if its required members have been. -/
def finish (draft : TableDraft) : Except Misfit Table :=
  match draft.name, draft.fields with
  | none, _ => .error (.missingMember TableMember.name.key)
  | some _, none => .error (.missingMember TableMember.fields.key)
  | some name, some fields =>
    .ok { name, fields, dialect := (draft.dialect.map Dialect.ofNameOrDefault).getD default }

end TableDraft

/-- The record of a table. -/
def Table.format : Format TableMember TableDraft Table where
  title := "TableDefinition"
  members := TableMember.all
  key := TableMember.key
  empty := {}
  has := TableDraft.has
  read := TableDraft.read
  finish := TableDraft.finish

/-- What a document of a table holds. -/
structure TableReading where
  /-- The name of the dialect, if it was read. -/
  dialectName : Option String
  /-- The table, or the fault of the document. -/
  outcome : Except Fault Table

/-- Reads the document of a table. -/
def Table.readDocument (text : String) : TableReading :=
  let p := Table.format.readDraft text.toList
  { dialectName := p.state.dialect
    outcome := do
      let (table, rest) ← Table.format.finishDraft p
      readEnd rest
      return table }

/-- The table that a document holds. -/
def Table.ofJson (text : String) : Except Fault Table :=
  (Table.readDocument text).outcome

/-- The document of a table. -/
def Table.toJson (t : Table) : Json :=
  .object
    [(TableMember.name.key, .string t.name),
      (TableMember.fields.key, .array (t.fields.map Field.toJson)),
      (TableMember.dialect.key, .string t.dialect.name)]

end SqlScribe
