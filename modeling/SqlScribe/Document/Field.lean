import SqlScribe.Json.Printer
import SqlScribe.Json.Record
import SqlScribe.Schema.Field

/-!
# Fields as documents

A field is written as a JSON record of nine members.  Its name and type are required; a
length, a scale and a description can be absent or `null`, and the other members have
defaults.  What is written leaves absent members out.
-/

namespace SqlScribe

open Json

/-- The members of the record of a field, in the order in which they are written. -/
inductive FieldMember where
  /-- The name of the column. -/
  | name
  /-- The type of the column, by its name. -/
  | type
  /-- The length or precision. -/
  | length
  /-- The number of digits after the point. -/
  | scale
  /-- Whether nulls are allowed. -/
  | nullable
  /-- Whether the column belongs to the primary key. -/
  | primaryKey
  /-- Whether no value may come twice. -/
  | unique
  /-- Whether the database counts the values up. -/
  | autoIncrement
  /-- What the column is for. -/
  | description
  deriving Repr, DecidableEq

namespace FieldMember

/-- All members. -/
def all : List FieldMember :=
  [name, type, length, scale, nullable, primaryKey, unique, autoIncrement, description]

/-- The key of a member. -/
def key : FieldMember → String
  | name => "name"
  | type => "type"
  | length => "length"
  | scale => "scale"
  | nullable => "nullable"
  | primaryKey => "primaryKey"
  | unique => "unique"
  | autoIncrement => "autoIncrement"
  | description => "description"

end FieldMember

/-- The members of a field that have been read. -/
structure FieldDraft where
  /-- The name. -/
  name : Option String := none
  /-- The type. -/
  type : Option ColumnType := none
  /-- The length, or its absence. -/
  length : Option (Option UInt32) := none
  /-- The scale, or its absence. -/
  scale : Option (Option UInt32) := none
  /-- Whether nulls are allowed. -/
  nullable : Option Bool := none
  /-- Whether the column belongs to the primary key. -/
  primaryKey : Option Bool := none
  /-- Whether no value may come twice. -/
  unique : Option Bool := none
  /-- Whether the database counts the values up. -/
  autoIncrement : Option Bool := none
  /-- The description, or its absence. -/
  description : Option (Option String) := none

namespace FieldDraft

/-- Whether a member has been read. -/
def has (draft : FieldDraft) : FieldMember → Bool
  | .name => draft.name.isSome
  | .type => draft.type.isSome
  | .length => draft.length.isSome
  | .scale => draft.scale.isSome
  | .nullable => draft.nullable.isSome
  | .primaryKey => draft.primaryKey.isSome
  | .unique => draft.unique.isSome
  | .autoIncrement => draft.autoIncrement.isSome
  | .description => draft.description.isSome

/-- The field that has been read, if its required members have been. -/
def finish (draft : FieldDraft) : Except Misfit Field :=
  match draft.name, draft.type with
  | none, _ => .error (.missingMember FieldMember.name.key)
  | some _, none => .error (.missingMember FieldMember.type.key)
  | some name, some type =>
    .ok
      { name
        type
        length := draft.length.getD none
        scale := draft.scale.getD none
        nullable := draft.nullable.getD true
        primaryKey := draft.primaryKey.getD false
        unique := draft.unique.getD false
        autoIncrement := draft.autoIncrement.getD false
        description := draft.description.getD none }

end FieldDraft

/-- Reads the name of a column type. -/
def readColumnType : Reader ColumnType := fun text => do
  let (name, after) ← readString text
  match ColumnType.ofName name with
  | .ok type => return (type, after)
  | .error e => .error (.misfit (.columnType e))

/-- Reads a value and puts it into a draft. -/
def readInto {α δ : Type} (read : Reader α) (put : α → δ) : Reader δ := fun text =>
  (read text).map fun (value, after) => (put value, after)

/-- Reads a member into a draft. -/
def FieldDraft.read : FieldMember → FieldDraft → Reader FieldDraft
  | .name, d => readInto readString fun s => { d with name := some s }
  | .type, d => readInto readColumnType fun t => { d with type := some t }
  | .length, d => readInto (readOption readWord) fun n => { d with length := some n }
  | .scale, d => readInto (readOption readWord) fun n => { d with scale := some n }
  | .nullable, d => readInto readBool fun b => { d with nullable := some b }
  | .primaryKey, d => readInto readBool fun b => { d with primaryKey := some b }
  | .unique, d => readInto readBool fun b => { d with unique := some b }
  | .autoIncrement, d => readInto readBool fun b => { d with autoIncrement := some b }
  | .description, d => readInto (readOption readString) fun s => { d with description := some s }

/-- The record of a field. -/
def Field.format : Format FieldMember FieldDraft Field where
  title := "FieldDefinition"
  members := FieldMember.all
  key := FieldMember.key
  empty := {}
  has := FieldDraft.has
  read := FieldDraft.read
  finish := FieldDraft.finish

/-- The field that a document holds. -/
def Field.ofJson (text : String) : Except Fault Field :=
  readDocument Field.format.readRecord text

/-- The members of the document of a field. -/
def Field.members (f : Field) : List (String × Json) :=
  [(FieldMember.name.key, .string f.name), (FieldMember.type.key, .string f.type.name)]
    ++ (f.length.map fun n => (FieldMember.length.key, Json.natural n.toNat)).toList
    ++ (f.scale.map fun n => (FieldMember.scale.key, Json.natural n.toNat)).toList
    ++ [(FieldMember.nullable.key, .boolean f.nullable),
      (FieldMember.primaryKey.key, .boolean f.primaryKey),
      (FieldMember.unique.key, .boolean f.unique),
      (FieldMember.autoIncrement.key, .boolean f.autoIncrement)]
    ++ (f.description.map fun s => (FieldMember.description.key, Json.string s)).toList

/-- The document of a field. -/
def Field.toJson (f : Field) : Json :=
  .object f.members

end SqlScribe
