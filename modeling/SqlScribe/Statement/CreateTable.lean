import SqlScribe.Schema.NativeType
import SqlScribe.Statement.Fragment
import SqlScribe.Text.UpperCase

/-!
# CREATE TABLE statements

The statement that creates a table, and the statements that a dialect needs after it.  A
`CreateTable` has a column for each field, with the clauses of the column in the order in
which they are written.  A primary key of one field is a clause of its column; one of
several fields is a constraint of the table, and then no column has a clause for it.
Descriptions of columns are a clause in one dialect and statements of their own in
another.  Where a dialect counts up by sequences, each such column has a sequence and a
trigger after the table; their names are upper-case and not quoted.
-/

namespace SqlScribe.Statement

/-- A clause of a column. -/
inductive ColumnClause where
  /-- Nulls are rejected. -/
  | notNull
  /-- The values are counted up, by a modifier. -/
  | autoIncrement
  /-- The values are counted up, as an identity. -/
  | identity
  /-- The column is the primary key, and its values are counted up. -/
  | countedKey
  /-- The column is the primary key. -/
  | primaryKey
  /-- No value may come twice. -/
  | unique
  /-- What the column is for. -/
  | comment (text : String)
  deriving Repr, DecidableEq

/-- A clause as a part of a statement. -/
def ColumnClause.fragments : ColumnClause → List Fragment
  | notNull => [.code "NOT NULL"]
  | autoIncrement => [.code "AUTO_INCREMENT"]
  | identity => [.code "GENERATED ALWAYS AS IDENTITY"]
  | countedKey => [.code "PRIMARY KEY AUTOINCREMENT"]
  | primaryKey => [.code "PRIMARY KEY"]
  | unique => [.code "UNIQUE"]
  | comment text => [.code "COMMENT ", .literal text]

/-- A column of a table. -/
structure Column where
  /-- The name of the column. -/
  name : String
  /-- The type of the column, as the dialect writes it. -/
  type : String
  /-- The clauses of the column, in the order in which they are written. -/
  clauses : List ColumnClause
  deriving Repr, DecidableEq

/-- A column as a part of a statement. -/
def Column.fragments (c : Column) : List Fragment :=
  [.identifier c.name, .code " ", .code c.type]
    ++ c.clauses.flatMap fun clause => .code " " :: clause.fragments

/-- The clause by which a dialect counts up the values of a column.  `inlineKey` says whether
the column can have the clause of the primary key, which in one dialect is the same. -/
def autoIncrementClause? (d : Dialect) (f : Field) (inlineKey : Bool) : Option ColumnClause :=
  match d.autoIncrementStrategy with
  | .modifier => some .autoIncrement
  | .identity => if isIntegerTypeName (d.typeName f.type) then some .identity else none
  | .keyModifier => if inlineKey then some .countedKey else none
  | .sequenceTrigger => none

/-- The clause in which a dialect puts the description of a column. -/
def commentClause? (d : Dialect) (f : Field) : Option ColumnClause :=
  match d with
  | .mySql => f.comment?.map .comment
  | _ => none

/-- The clauses of a column. -/
def clausesOf (d : Dialect) (f : Field) (inlineKey : Bool) : List ColumnClause :=
  let counting := if f.autoIncrement then autoIncrementClause? d f inlineKey else none
  (if f.isNotNull then [.notNull] else [])
    ++ counting.toList
    ++ (if f.primaryKey && inlineKey && counting != some .countedKey then [.primaryKey] else [])
    ++ (if f.unique && !f.primaryKey then [.unique] else [])
    ++ (commentClause? d f).toList

/-- The column of a field. -/
def Column.ofField (d : Dialect) (f : Field) (inlineKey : Bool) : Column where
  name := f.name
  type := f.nativeText d
  clauses := clausesOf d f inlineKey

/-- The primary key of a table as a constraint. -/
structure KeyConstraint where
  /-- The name of the constraint, where the dialect gives it one. -/
  name : Option String
  /-- The names of the columns. -/
  columns : List String
  deriving Repr, DecidableEq

/-- The primary key of a table as a constraint of its dialect. -/
def KeyConstraint.ofTable (t : Table) : KeyConstraint where
  name :=
    match t.dialect with
    | .oracle => some ("PK_" ++ Text.upperCase t.name)
    | _ => none
  columns := t.primaryKeyFields.map (·.name)

/-- A key constraint as a part of a statement. -/
def KeyConstraint.fragments (k : KeyConstraint) : List Fragment :=
  (match k.name with
    | some name => [.code "CONSTRAINT ", .code name, .code " "]
    | none => [])
    ++ [.code "PRIMARY KEY ("] ++ columnList k.columns ++ [.code ")"]

/-- The name of the sequence that counts up a field of a table. -/
def sequenceName (table field : String) : String :=
  Text.upperCase ("SEQ_" ++ table ++ "_" ++ field)

/-- The name of the trigger that counts up a field of a table. -/
def triggerName (table field : String) : String :=
  Text.upperCase ("TRG_" ++ table ++ "_" ++ field)

/-- Statements that come after the creation of a table. -/
inductive Supplement where
  /-- Descriptions of columns, by their names. -/
  | comments (table : String) (descriptions : List (String × String))
  /-- The creation of a sequence. -/
  | sequence (name : String)
  /-- The creation of a trigger that draws the values of a column from a sequence. -/
  | trigger (name table counter column : String)
  deriving Repr, DecidableEq

/-- Statements after a table as they are written. -/
def Supplement.fragments : Supplement → List Fragment
  | comments table descriptions =>
    separatedBy "\n" (descriptions.map fun (column, text) =>
      [.code "COMMENT ON COLUMN ", .identifier table, .code ".", .identifier column,
        .code " IS ", .literal text, .code ";"])
  | sequence name => [.code "CREATE SEQUENCE ", .code name, .code " START WITH 1 INCREMENT BY 1;"]
  | trigger name table counter column =>
    [.code "CREATE OR REPLACE TRIGGER ", .code name, .code "\nBEFORE INSERT ON ",
      .identifier table, .code "\nFOR EACH ROW\nBEGIN\n    SELECT ", .code counter,
      .code ".NEXTVAL INTO :NEW.", .identifier column, .code " FROM DUAL;\nEND;"]

/-- The descriptions of the columns of a table, by their names. -/
def descriptionsOf (t : Table) : List (String × String) :=
  t.fields.filterMap fun f => f.comment?.map fun text => (f.name, text)

/-- The statements that a dialect needs after a table. -/
def supplementsOf (t : Table) : List Supplement :=
  match t.dialect with
  | .postgreSql =>
    let descriptions := descriptionsOf t
    if descriptions.isEmpty then [] else [.comments t.name descriptions]
  | .oracle =>
    t.autoIncrementFields.flatMap fun f =>
      let counter := sequenceName t.name f.name
      [.sequence counter, .trigger (triggerName t.name f.name) t.name counter f.name]
  | _ => []

/-- What a dialect writes after the columns of a table. -/
def tableOptions? : Dialect → Option String
  | .mySql => some "ENGINE=InnoDB DEFAULT CHARSET=utf8mb4 COLLATE=utf8mb4_unicode_ci"
  | _ => none

/-- The creation of a table. -/
structure CreateTable where
  /-- The name of the table. -/
  table : String
  /-- The columns. -/
  columns : List Column
  /-- The primary key, if it is a constraint of the table. -/
  key : Option KeyConstraint
  /-- What is written after the columns. -/
  options : Option String
  /-- The statements after the table. -/
  supplements : List Supplement
  deriving Repr, DecidableEq

namespace CreateTable

/-- The creation of a table in its dialect. -/
def ofTable (t : Table) : CreateTable where
  table := t.name
  columns := t.fields.map fun f => Column.ofField t.dialect f (!t.hasCompoundKey)
  key := if t.hasCompoundKey then some (KeyConstraint.ofTable t) else none
  options := tableOptions? t.dialect
  supplements := supplementsOf t

/-- The lines between the parentheses of a table. -/
def lines (c : CreateTable) : List (List Fragment) :=
  (c.columns.map (·.fragments) ++ (c.key.map (·.fragments)).toList).map fun line =>
    .code "    " :: line

/-- The creation of a table as it is written. -/
def fragments (c : CreateTable) : List Fragment :=
  [.code "CREATE TABLE ", .identifier c.table, .code " (\n"]
    ++ separatedBy ",\n" c.lines
    ++ [.code "\n)"]
    ++ (match c.options with
      | some options => [.code " ", .code options]
      | none => [])
    ++ [.code ";"]
    ++ c.supplements.flatMap fun s => .code "\n\n" :: s.fragments

end CreateTable

end SqlScribe.Statement

namespace SqlScribe

/-- The statements that create a table. -/
def Table.createSql (t : Table) : String :=
  Statement.write t.dialect (Statement.CreateTable.ofTable t).fragments

end SqlScribe
