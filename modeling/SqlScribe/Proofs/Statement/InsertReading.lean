import SqlScribe.Proofs.Statement.CellReading
import SqlScribe.Statement.Insert

/-!
# INSERT statements are read back

A reader of INSERT statements that knows nothing but how the dialect quotes names and texts.
`readInsert?` accepts a list of rows, a selection of rows under the names of the columns, and
several statements for one table, and gives back the table, the columns and the rows with their
cells as they stand in the text.

The statements for a table and its rows are read back as what was inserted
(`readInsert?_insertSql`), whatever the names and the values are.  A selection of rows and a
statement for each row are read as the same, so they say the same.
-/

namespace SqlScribe.Statement

open Text Text.Reader

/-! ### The reader -/

/-- What is read from INSERT statements. -/
structure Inserted where
  /-- The name of the table. -/
  table : String
  /-- The names of the columns. -/
  columns : List String
  /-- The cells of the rows, as they stand in the text. -/
  rows : List (List String)
  deriving Repr, DecidableEq

/-- Reads the cells of a row between parentheses. -/
def values (d : Dialect) : Reader (List String) := do
  expect "("
  let cells ← separated (cell d) ", "
  expect ")"
  return cells

/-- Reads a cell with the name of its column. -/
def namedCell (d : Dialect) : Reader (String × String) := do
  let text ← cell d
  expect " AS "
  let name ← quoted d.identifierStyle
  return (text, name)

/-- Reads a row that is selected under the names of the columns. -/
def selection (d : Dialect) (columns : List String) : Reader (List String) := do
  expect "    SELECT "
  let cells ← separated (namedCell d) ", "
  expect " FROM DUAL"
  if cells.map (·.2) = columns then return cells.map (·.1) else failure

/-- Reads the rows of a statement. -/
def rowsOf (d : Dialect) (columns : List String) : Reader (List (List String)) :=
  (do
    expect " VALUES\n"
    let rows ← separated (values d) ",\n"
    expect ";"
    return rows)
  <|> (do
    expect "\nSELECT * FROM (\n"
    let rows ← separated (selection d columns) "\n    UNION ALL\n"
    expect "\n);"
    return rows)
  <|> (do
    expect " VALUES "
    let row ← values d
    expect ";"
    return [row])

/-- Reads a statement. -/
def insertion (d : Dialect) : Reader Inserted := do
  expect "INSERT INTO "
  let table ← quoted d.identifierStyle
  expect " ("
  let columns ← separated (quoted d.identifierStyle) ", "
  expect ")"
  let rows ← rowsOf d columns
  return ⟨table, columns, rows⟩

/-- Statements for one table and its columns, taken together. -/
def Inserted.merge? : List Inserted → Option Inserted
  | [] => none
  | first :: more =>
    if ∀ i ∈ more, i.table = first.table ∧ i.columns = first.columns then
      some ⟨first.table, first.columns, (first :: more).flatMap (·.rows)⟩
    else none

/-- Reads INSERT statements. -/
def readInsert? (d : Dialect) (sql : String) : Option Inserted :=
  match (separated (insertion d) "\n").run sql.toList with
  | some (statements, []) => Inserted.merge? statements
  | _ => none

/-- Statements with a row each are taken together as one with all the rows. -/
theorem Inserted.merge?_map {α : Type} (table : String) (columns : List String)
    (row : α → List String) {xs : List α} (hne : xs ≠ []) :
  merge? (xs.map fun x => ⟨table, columns, [row x]⟩) = some ⟨table, columns, xs.map row⟩
  := by
  cases xs with
  | nil => contradiction
  | cons x xs =>
    have hsame : ∀ i ∈ xs.map fun x => (⟨table, columns, [row x]⟩ : Inserted),
        i.table = table ∧ i.columns = columns := by
      intro i hi
      obtain ⟨_, -, rfl⟩ := List.mem_map.mp hi
      exact ⟨rfl, rfl⟩
    rw [List.map_cons, merge?, if_pos hsame]
    simp [List.flatMap_map, ← List.map_eq_flatMap]

/-! ### Parts of statements -/

variable {d : Dialect}

/-- The cells of a row as they are written. -/
def rowText (d : Dialect) (cells : List Cell) : List String :=
  cells.map fun x => String.ofList (x.written d)

/-- Cells are read back in the order in which they are written. -/
theorem reads_values {cells : List Cell} (hne : cells ≠ []) (h : ∀ x ∈ cells, x.IsLegible d) :
  Reads (values d) (rowText d cells)
    ("(".toList ++ (textOf d (Insert.valueList d cells) ++ ")".toList)) Anything
  := by
  have hcells : Reads (separated (cell d) ", ") (rowText d cells)
      (textOf d (Insert.valueList d cells)) (StartsWith ")") := by
    apply reads_separatedBy hne h _ _ (by decide)
    · intro rest
      exact ⟨',', rfl, rfl⟩
    · intro rest
      exact ⟨')', rfl, rfl⟩
  apply (reads_expect "(").bind _ (fun _ _ => trivial)
  apply hcells.bind ((reads_expect ")").bind_pure _)
  intro rest _
  apply List.prefix_append

theorem reads_namedCell {x : Cell} (h : x.IsLegible d) (name : String) :
  Reads (namedCell d) (String.ofList (x.written d), name)
    (textOf d (x.fragments d ++ [.code " AS ", .identifier name]))
    (NotBefore d.identifierStyle.mark)
  := by
  have htext : textOf d (x.fragments d ++ [.code " AS ", .identifier name])
      = x.written d ++ (" AS ".toList ++ textOf d [.identifier name]) := by
    simp [Cell.written, textOf, Fragment.write]
  rw [htext]
  apply h.bind
  · apply (reads_expect " AS ").bind _ (fun _ _ => trivial)
    exact (reads_identifier name).bind_pure _
  · intro rest _
    exact ⟨' ', rfl, rfl⟩

/-- The cells that are selected are read back with the names of their columns. -/
theorem reads_selectList {columns : List String} {cells : List Cell} (hne : cells ≠ [])
    (hlength : cells.length = columns.length) (h : ∀ x ∈ cells, x.IsLegible d) :
  Reads (separated (namedCell d) ", ") ((rowText d cells).zip columns)
    (textOf d (Insert.selectList d columns cells)) (StartsWith " FROM DUAL")
  := by
  have hzip : cells.zip columns ≠ [] := by
    intro he
    apply hne
    rw [← List.map_fst_zip (Nat.le_of_eq hlength), he]
    rfl
  have hitem : ∀ p ∈ cells.zip columns, Reads (namedCell d) (String.ofList (p.1.written d), p.2)
      (textOf d (p.1.fragments d ++ [.code " AS ", .identifier p.2]))
      (NotBefore d.identifierStyle.mark) := by
    intro p hp
    exact reads_namedCell (h p.1 (List.of_mem_zip hp).1) p.2
  rw [rowText, List.zip_map_left]
  apply reads_separatedBy hzip hitem _ _ (by decide)
  · intro rest
    exact notBefore_identifierMark (by decide) _
  · intro rest
    exact notBefore_identifierMark (by decide) _

/-- A row that is selected under the names of the columns is read back. -/
theorem reads_selection {columns : List String} {cells : List Cell} (hne : cells ≠ [])
    (hlength : cells.length = columns.length) (h : ∀ x ∈ cells, x.IsLegible d) :
  Reads (selection d columns) (rowText d cells)
    ("    SELECT ".toList ++ (textOf d (Insert.selectList d columns cells) ++ " FROM DUAL".toList))
    Anything
  := by
  have hlength' : (rowText d cells).length = columns.length := by
    rw [rowText, List.length_map, hlength]
  apply (reads_expect "    SELECT ").bind _ (fun _ _ => trivial)
  apply (reads_selectList hne hlength h).bind
  · rw [List.map_snd_zip (Nat.le_of_eq hlength'.symm), List.map_fst_zip (Nat.le_of_eq hlength')]
    simp only [↓reduceIte]
    exact (reads_expect " FROM DUAL").bind_pure _
  · intro rest _
    apply List.prefix_append

/-! ### Statements -/

namespace Insert

/-- There are columns and rows, each row has a cell for every column, and each cell can be read
back. -/
structure IsLegible (d : Dialect) (i : Insert) : Prop where
  columns_ne : i.columns ≠ []
  rows_ne : i.rows ≠ []
  length_eq : ∀ cells ∈ i.rows, cells.length = i.columns.length
  cells : ∀ cells ∈ i.rows, ∀ x ∈ cells, x.IsLegible d

variable {i : Insert}

theorem IsLegible.cells_ne (h : i.IsLegible d) {cells : List Cell} (hcells : cells ∈ i.rows) :
  cells ≠ []
  := by
  rintro rfl
  exact h.columns_ne (List.length_eq_zero_iff.mp (h.length_eq [] hcells).symm)

/-- A statement is read if its rows are. -/
theorem reads_insertion (hne : i.columns ≠ []) {rows : List (List String)} {s : List Char}
    (hrows : Reads (rowsOf d i.columns) rows s Anything) :
  Reads (insertion d) ⟨i.table, i.columns, rows⟩ (textOf d i.head ++ s) Anything
  := by
  have htext : textOf d i.head ++ s = "INSERT INTO ".toList ++ (textOf d [.identifier i.table]
      ++ (" (".toList ++ (textOf d (columnList i.columns) ++ (")".toList ++ s)))) := by
    simp [head, textOf, Fragment.write]
  rw [htext]
  apply (reads_expect "INSERT INTO ").bind _ (fun _ _ => trivial)
  apply (reads_identifier i.table).bind
  · apply (reads_expect " (").bind _ (fun _ _ => trivial)
    apply (reads_columnList hne).bind
    · apply (reads_expect ")").bind _ (fun _ _ => trivial)
      exact hrows.bind_pure _
    · intro rest _
      rw [List.append_assoc]
      apply List.prefix_append
  · intro rest _
    exact notBefore_identifierMark (by decide) _

/-- A row in a list of values. -/
def rowValues (d : Dialect) (cells : List Cell) : List Fragment :=
  [.code "("] ++ valueList d cells ++ [.code ")"]

/-- A row that is selected. -/
def rowSelection (d : Dialect) (i : Insert) (cells : List Cell) : List Fragment :=
  [.code "    SELECT "] ++ selectList d i.columns cells ++ [.code " FROM DUAL"]

/-- A statement for a row. -/
def rowStatement (d : Dialect) (i : Insert) (cells : List Cell) : List Fragment :=
  i.head ++ [.code " VALUES ("] ++ valueList d cells ++ [.code ");"]

theorem reads_asValueList (h : i.IsLegible d) :
  Reads (insertion d) ⟨i.table, i.columns, i.rows.map (rowText d)⟩ (textOf d (i.asValueList d))
    Anything
  := by
  have htext : textOf d (i.asValueList d) = textOf d i.head ++ (" VALUES\n".toList
      ++ (textOf d (separatedBy ",\n" (i.rows.map (rowValues d))) ++ ";".toList)) := by
    have hparts : i.asValueList d = i.head ++ [.code " VALUES\n"]
        ++ separatedBy ",\n" (i.rows.map (rowValues d)) ++ [.code ";"] := rfl
    simp only [hparts, textOf_append, textOf_code, List.append_assoc]
  have hitem : ∀ cells ∈ i.rows,
      Reads (values d) (rowText d cells) (textOf d (rowValues d cells)) Anything := by
    intro cells hcells
    rw [rowValues, textOf_append, textOf_append, textOf_code, textOf_code, List.append_assoc]
    exact reads_values (h.cells_ne hcells) (h.cells cells hcells)
  have hrows : Reads (separated (values d) ",\n") (i.rows.map (rowText d))
      (textOf d (separatedBy ",\n" (i.rows.map (rowValues d)))) (StartsWith ";") :=
    reads_separatedBy h.rows_ne hitem (fun _ => trivial) (fun _ => trivial) (by decide)
  rw [htext]
  apply reads_insertion h.columns_ne
  apply Reads.orElse_left
  apply (reads_expect " VALUES\n").bind _ (fun _ _ => trivial)
  apply hrows.bind ((reads_expect ";").bind_pure _)
  intro rest _
  apply List.prefix_append

theorem reads_asUnion (h : i.IsLegible d) :
  Reads (insertion d) ⟨i.table, i.columns, i.rows.map (rowText d)⟩ (textOf d (i.asUnion d))
    Anything
  := by
  have htext : textOf d (i.asUnion d) = textOf d i.head ++ ("\nSELECT * FROM (\n".toList
      ++ (textOf d (separatedBy "\n    UNION ALL\n" (i.rows.map (i.rowSelection d)))
        ++ "\n);".toList)) := by
    have hparts : i.asUnion d = i.head ++ [.code "\nSELECT * FROM (\n"]
        ++ separatedBy "\n    UNION ALL\n" (i.rows.map (i.rowSelection d)) ++ [.code "\n);"] := rfl
    simp only [hparts, textOf_append, textOf_code, List.append_assoc]
  have hitem : ∀ cells ∈ i.rows, Reads (selection d i.columns) (rowText d cells)
      (textOf d (i.rowSelection d cells)) Anything := by
    intro cells hcells
    rw [rowSelection, textOf_append, textOf_append, textOf_code, textOf_code, List.append_assoc]
    exact reads_selection (h.cells_ne hcells) (h.length_eq cells hcells) (h.cells cells hcells)
  have hrows : Reads (separated (selection d i.columns) "\n    UNION ALL\n")
      (i.rows.map (rowText d))
      (textOf d (separatedBy "\n    UNION ALL\n" (i.rows.map (i.rowSelection d))))
      (StartsWith "\n);") :=
    reads_separatedBy h.rows_ne hitem (fun _ => trivial) (fun _ => trivial) (by decide)
  rw [htext]
  apply reads_insertion h.columns_ne
  apply Reads.orElse_right
  · apply Reads.orElse_left
    apply (reads_expect "\nSELECT * FROM (\n").bind _ (fun _ _ => trivial)
    apply hrows.bind ((reads_expect "\n);").bind_pure _)
    intro rest _
    apply List.prefix_append
  · intro rest _
    exact expect_bind_fails (by decide) (by decide) rest

theorem reads_rowStatement (h : i.IsLegible d) {cells : List Cell} (hcells : cells ∈ i.rows) :
  Reads (insertion d) ⟨i.table, i.columns, [rowText d cells]⟩ (textOf d (i.rowStatement d cells))
    Anything
  := by
  have htext : textOf d (i.rowStatement d cells) = textOf d i.head ++ (" VALUES ".toList
      ++ ("(".toList ++ (textOf d (valueList d cells) ++ ")".toList) ++ ";".toList)) := by
    simp [rowStatement, textOf, Fragment.write]
  rw [htext]
  apply reads_insertion h.columns_ne
  apply Reads.orElse_right
  · apply Reads.orElse_right
    · apply (reads_expect " VALUES ").bind _ (fun _ _ => trivial)
      have hvalues := reads_values (h.cells_ne hcells) (h.cells cells hcells)
      exact hvalues.bind ((reads_expect ";").bind_pure _) fun _ _ => trivial
    · intro rest _
      exact expect_bind_fails (by decide) (by decide) rest
  · intro rest _
    exact expect_bind_fails (by decide) (by decide) rest

/-! ### Texts of statements -/

/-- Statements with line breaks between them are read, each as what it is. -/
theorem run_separated {α : Type} {xs : List α} (value : α → Inserted) (text : α → List Char)
    (hne : xs ≠ []) (h : ∀ x ∈ xs, Reads (insertion d) (value x) (text x) Anything) :
  (separated (insertion d) "\n").run ("\n".toList.intercalate (xs.map text))
    = some (xs.map value, [])
  := by
  have hread : Reads (separated (insertion d) "\n") (xs.map value)
      ("\n".toList.intercalate (xs.map text)) (· = []) := by
    apply reads_separated hne (by decide) h (fun _ => trivial)
    rintro rest rfl
    constructor
    · trivial
    · decide
  have hrun := hread [] rfl
  rwa [List.append_nil] at hrun

/-- What is inserted, as it is read. -/
def inserted (d : Dialect) (i : Insert) : Inserted :=
  ⟨i.table, i.columns, i.rows.map (rowText d)⟩

theorem readInsert?_of_reads {fragments : List Fragment}
    (h : Reads (insertion d) (i.inserted d) (textOf d fragments) Anything) :
  readInsert? d (write d fragments) = some (i.inserted d)
  := by
  have hrun : (separated (insertion d) "\n").run (textOf d fragments)
      = some ([i.inserted d], []) := by
    have hone : ∀ x ∈ [i], Reads (insertion d) (x.inserted d) (textOf d fragments) Anything := by
      intro x hx
      rwa [List.mem_singleton.mp hx]
    have hrun := run_separated (inserted d) (fun _ => textOf d fragments) (by simp) hone
    rwa [List.map_singleton, List.intercalate_singleton] at hrun
  rw [readInsert?, write, String.toList_ofList, ← textOf, hrun]
  simp [Inserted.merge?, inserted]

theorem readInsert?_asRows (h : i.IsLegible d) :
  readInsert? d (write d (i.asRows d)) = some (i.inserted d)
  := by
  have htext : textOf d (i.asRows d)
      = "\n".toList.intercalate (i.rows.map fun cells => textOf d (i.rowStatement d cells)) := by
    have hrows : i.asRows d = separatedBy "\n" (i.rows.map (i.rowStatement d)) := rfl
    rw [hrows, textOf_separatedBy, List.map_map]
    rfl
  have hrun := run_separated (fun cells => Inserted.mk i.table i.columns [rowText d cells])
    (fun cells => textOf d (i.rowStatement d cells)) h.rows_ne
    (fun _ hcells => reads_rowStatement h hcells)
  rw [readInsert?, write, String.toList_ofList, ← textOf, htext, hrun]
  exact Inserted.merge?_map _ _ _ h.rows_ne

/-- All forms of inserting rows are read back as what is inserted. -/
theorem readInsert?_forms (h : i.IsLegible d) :
  readInsert? d (write d (i.asValueList d)) = some (i.inserted d)
    ∧ readInsert? d (write d (i.asUnion d)) = some (i.inserted d)
    ∧ readInsert? d (write d (i.asRows d)) = some (i.inserted d)
  := by
  constructor
  · exact readInsert?_of_reads (reads_asValueList h)
  constructor
  · exact readInsert?_of_reads (reads_asUnion h)
  · exact readInsert?_asRows h

theorem readInsert?_fragments (h : i.IsLegible d) :
  readInsert? d (write d (i.fragments d)) = some (i.inserted d)
  := by
  obtain ⟨hvalues, hunion, hrows⟩ := readInsert?_forms h
  have hne : i.rows.isEmpty = false := List.isEmpty_eq_false_iff.mpr h.rows_ne
  rw [fragments, hne, if_neg (by simp)]
  split
  · exact hvalues
  · exact hunion
  · exact hrows

end Insert

/-! ### Generated statements -/

theorem readInsert?_empty :
  readInsert? d "" = none
  := by
  have hrun : (insertion d).run [] = none := by
    apply expect_bind_eq_none
    decide
  have hempty : (separated (insertion d) "\n").run "".toList = none := by
    change separated (insertion d) "\n" [] = none
    rw [separated, hrun]
  rw [readInsert?, hempty]

/-- A value as it is written in a column of a field. -/
def renderValue (d : Dialect) (f : Field) (v : Option Value) : String :=
  write d ((Cell.ofValue d f.type v).fragments d)

theorem isLegible_ofTable {t : Table} {rows : List Row} (hfields : t.fields ≠ [])
    (hrows : rows ≠ []) :
  (Insert.ofTable t rows).IsLegible t.dialect
  where
  columns_ne := by
    intro h
    exact hfields (List.map_eq_nil_iff.mp h)
  rows_ne := by
    intro h
    exact hrows (List.map_eq_nil_iff.mp h)
  length_eq := by
    intro cells hcells
    obtain ⟨row, -, rfl⟩ := List.mem_map.mp hcells
    simp [cellsOf, Insert.ofTable]
  cells := by
    intro cells hcells x hx
    obtain ⟨row, -, rfl⟩ := List.mem_map.mp hcells
    obtain ⟨f, -, rfl⟩ := List.mem_map.mp hx
    apply isLegible_ofValue

/-- What is to be read back: the name of the table, the names of its fields in order, and for
each row in order the cells of its fields, as the values are written one by one. -/
def Inserted.ofTable (t : Table) (rows : List Row) : Inserted where
  table := t.name
  columns := t.fields.map (·.name)
  rows := rows.map fun row => t.fields.map fun f => renderValue t.dialect f (row.get? f.name)

theorem Insert.inserted_ofTable (t : Table) (rows : List Row) :
  (Insert.ofTable t rows).inserted t.dialect = Inserted.ofTable t rows
  := by
  have hrow : ∀ row : Row, rowText t.dialect (cellsOf t.dialect t.fields row)
      = t.fields.map fun f => renderValue t.dialect f (row.get? f.name) := by
    intro row
    rw [rowText, cellsOf, List.map_map]
    rfl
  simp only [inserted, ofTable, Inserted.ofTable, List.map_map, Function.comp_def, hrow]

/-- No text is written for no rows.  For any others the text is read back as the table, its
columns and the cells of the rows, and so it is in either of the forms for dialects without
lists of rows. -/
theorem readInsert?_insertSql (t : Table) (rows : List Row) (hfields : t.fields ≠ []) :
  (t.insertSql rows = "" ↔ rows = [])
    ∧ (rows ≠ [] →
      readInsert? t.dialect (t.insertSql rows) = some (Inserted.ofTable t rows)
      ∧ readInsert? t.dialect (write t.dialect ((Insert.ofTable t rows).asUnion t.dialect))
        = some (Inserted.ofTable t rows)
      ∧ readInsert? t.dialect (write t.dialect ((Insert.ofTable t rows).asRows t.dialect))
        = some (Inserted.ofTable t rows))
  := by
  have hread : rows ≠ [] → readInsert? t.dialect (t.insertSql rows)
      = some ((Insert.ofTable t rows).inserted t.dialect) := by
    intro hrows
    exact Insert.readInsert?_fragments (isLegible_ofTable hfields hrows)
  constructor
  · constructor
    · intro hempty
      by_cases hrows : rows = []
      · exact hrows
      · have h := hread hrows
        rw [hempty, readInsert?_empty] at h
        contradiction
    · rintro rfl
      rfl
  · intro hrows
    obtain ⟨-, hunion, hasRows⟩ := Insert.readInsert?_forms (isLegible_ofTable hfields hrows)
    rw [← Insert.inserted_ofTable]
    constructor
    · exact hread hrows
    constructor
    · exact hunion
    · exact hasRows

/-- A table of a dialect with backslashes in texts.  The names and the text look like the ends of
what they stand in. -/
theorem readInsert?_insertSql_quotes :
  let t : Table :=
    { name := "a\x60 (\x60b"
      fields := [{ name := "x\x60) VALUES", type := .text },
        { name := "placed", type := .timestamp }]
      dialect := .mySql }
  let rows : List Row := [{ cells := [("x\x60) VALUES", .text "\\'), ('")] }, {}]
  readInsert? .mySql (t.insertSql rows) = some
    { table := "a\x60 (\x60b"
      columns := ["x\x60) VALUES", "placed"]
      rows := [["'\\\\''), ('''", "NULL"], ["NULL", "NULL"]] }
  := by
  intro t rows
  have hread : Inserted.ofTable t rows =
      { table := "a\x60 (\x60b"
        columns := ["x\x60) VALUES", "placed"]
        rows := [["'\\\\''), ('''", "NULL"], ["NULL", "NULL"]] } := by
    decide
  obtain ⟨-, hrows⟩ := readInsert?_insertSql t rows (by decide)
  rw [← hread]
  exact (hrows (by decide)).1

end SqlScribe.Statement
