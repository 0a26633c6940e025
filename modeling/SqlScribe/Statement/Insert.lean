import SqlScribe.Statement.Cell

/-!
# INSERT statements

The statements that fill a table with rows.  The columns stand in the order of the fields,
whatever the order of the values of a row.  Most dialects take all rows in one list of
values.  One has no such list: there a few rows are selected together, each under the names
of its columns, and more rows than that get a statement each.
-/

namespace SqlScribe.Statement

/-- The ways of inserting rows. -/
inductive InsertForm where
  /-- One statement with a list of rows. -/
  | valueList
  /-- One statement that selects the rows together. -/
  | unionAll
  /-- A statement for each row. -/
  | rowByRow
  deriving Repr, DecidableEq

/-- The greatest number of rows that are selected together. -/
def maximalUnion : Nat :=
  5

/-- The way in which a dialect inserts a number of rows. -/
def InsertForm.of (d : Dialect) (count : Nat) : InsertForm :=
  match d with
  | .oracle => if count ≤ maximalUnion then unionAll else rowByRow
  | _ => valueList

/-- What is inserted into a table. -/
structure Insert where
  /-- The name of the table. -/
  table : String
  /-- The names of the columns. -/
  columns : List String
  /-- The rows, each with a cell for every column. -/
  rows : List (List Cell)
  deriving Repr, DecidableEq

/-- The cells of a row, in the order of the fields. -/
def cellsOf (d : Dialect) (fields : List Field) (row : Row) : List Cell :=
  fields.map fun f => Cell.ofValue d f.type (row.get? f.name)

namespace Insert

/-- What a table and rows for it are inserted as. -/
def ofTable (t : Table) (rows : List Row) : Insert where
  table := t.name
  columns := t.fields.map (·.name)
  rows := rows.map (cellsOf t.dialect t.fields)

/-- The beginning of a statement, through the columns. -/
def head (i : Insert) : List Fragment :=
  [.code "INSERT INTO ", .identifier i.table, .code " ("] ++ columnList i.columns ++ [.code ")"]

/-- The cells of a row with commas between them. -/
def valueList (d : Dialect) (cells : List Cell) : List Fragment :=
  separatedBy ", " (cells.map (·.fragments d))

/-- The cells of a row with the names of their columns. -/
def selectList (d : Dialect) (columns : List String) (cells : List Cell) : List Fragment :=
  separatedBy ", " ((cells.zip columns).map fun (cell, name) =>
    cell.fragments d ++ [.code " AS ", .identifier name])

/-- One statement with a list of rows. -/
def asValueList (d : Dialect) (i : Insert) : List Fragment :=
  i.head ++ [.code " VALUES\n"]
    ++ separatedBy ",\n" (i.rows.map fun cells =>
      [.code "("] ++ valueList d cells ++ [.code ")"])
    ++ [.code ";"]

/-- One statement that selects the rows together. -/
def asUnion (d : Dialect) (i : Insert) : List Fragment :=
  i.head ++ [.code "\nSELECT * FROM (\n"]
    ++ separatedBy "\n    UNION ALL\n" (i.rows.map fun cells =>
      [.code "    SELECT "] ++ selectList d i.columns cells ++ [.code " FROM DUAL"])
    ++ [.code "\n);"]

/-- A statement for each row. -/
def asRows (d : Dialect) (i : Insert) : List Fragment :=
  separatedBy "\n" (i.rows.map fun cells =>
    i.head ++ [.code " VALUES ("] ++ valueList d cells ++ [.code ");"])

/-- The statements of a dialect; there are none without rows. -/
def fragments (d : Dialect) (i : Insert) : List Fragment :=
  if i.rows.isEmpty then []
  else
    match InsertForm.of d i.rows.length with
    | .valueList => i.asValueList d
    | .unionAll => i.asUnion d
    | .rowByRow => i.asRows d

end Insert

end SqlScribe.Statement

namespace SqlScribe

/-- The statements that insert rows into a table. -/
def Table.insertSql (t : Table) (rows : List Row) : String :=
  Statement.write t.dialect ((Statement.Insert.ofTable t rows).fragments t.dialect)

end SqlScribe
