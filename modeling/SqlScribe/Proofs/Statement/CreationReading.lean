import SqlScribe.Proofs.Statement.PartReading
import SqlScribe.Statement.CreateTable

/-!
# Reading the creation of a table

A reader of the statement that creates a table.  `creation` reads the lines between the
parentheses one by one, and each of them can be a column or a primary key as a constraint.  A
column has a name, a type, which goes on to the first clause or to the end of the line, and any
clauses in any order.  The reader knows how the dialect quotes names and texts, and what the
clauses are; it is told how the name of a constraint is read, which is the only name that is not
quoted.

What is read is what was written (`Creation.reads_fragments`), whatever the names and the
descriptions are, as long as the name of a constraint can be read and no type goes on with what
could be a clause.
-/

namespace SqlScribe.Statement

open Text Text.Reader

/-! ### The reader -/

/-- The clauses of columns that are fixed texts, the longer ones first. -/
def clauseKeywords : List (String × ColumnClause) :=
  [("NOT NULL", .notNull), ("AUTO_INCREMENT", .autoIncrement),
    ("GENERATED ALWAYS AS IDENTITY", .identity), ("PRIMARY KEY AUTOINCREMENT", .countedKey),
    ("PRIMARY KEY", .primaryKey), ("UNIQUE", .unique)]

/-- Reads a clause of a column. -/
def clause (d : Dialect) : Reader ColumnClause :=
  keyword clauseKeywords <|> (do
    expect "COMMENT "
    return .comment (← quoted d.literalStyle))

/-- Reads a clause of a column with the space before it. -/
def nextClause (d : Dialect) : Reader ColumnClause := do
  expect " "
  clause d

/-- What can follow a line between the parentheses. -/
def lineEnds : List String :=
  [",\n", "\n)"]

/-- What can follow the type of a column: a clause or the end of the line. -/
def typeEnds : List String :=
  clauseKeywords.map (fun p => " " ++ p.1) ++ " COMMENT " :: lineEnds

/-- Reads a column. -/
def column (d : Dialect) : Reader Column := do
  let name ← quoted d.identifierStyle
  expect " "
  let type ← upTo typeEnds
  let clauses ← many (nextClause d)
  return ⟨name, type, clauses⟩

/-- Reads the columns of a primary key. -/
def keyColumns (d : Dialect) : Reader (List String) := do
  expect "PRIMARY KEY ("
  let columns ← separated (quoted d.identifierStyle) ", "
  expect ")"
  return columns

/-- Reads a primary key as a constraint. -/
def keyConstraint (d : Dialect) (constraintName : Reader String) : Reader KeyConstraint :=
  (do return ⟨none, ← keyColumns d⟩)
  <|> (do
    expect "CONSTRAINT "
    let name ← constraintName
    expect " "
    return ⟨some name, ← keyColumns d⟩)

/-- A line between the parentheses. -/
inductive TableLine where
  /-- A column. -/
  | column (c : Column)
  /-- The primary key as a constraint. -/
  | key (k : KeyConstraint)
  deriving Repr, DecidableEq

/-- Reads a line between the parentheses. -/
def tableLine (d : Dialect) (constraintName : Reader String) : Reader TableLine := do
  expect "    "
  (do return .column (← column d)) <|> (do return .key (← keyConstraint d constraintName))

/-- Reads what is written after the columns of a table. -/
def tableOptions : Reader (Option String) :=
  (do
    expect " "
    return some (← upTo [";"]))
  <|> (do return none)

/-- What is read from the creation of a table. -/
structure Creation where
  /-- The name of the table. -/
  table : String
  /-- The lines between the parentheses. -/
  lines : List TableLine
  /-- What is written after the columns. -/
  options : Option String
  deriving Repr, DecidableEq

/-- The columns among the lines. -/
def Creation.columns (c : Creation) : List Column :=
  c.lines.filterMap fun
    | .column x => some x
    | .key _ => none

/-- The primary keys that are constraints. -/
def Creation.constraints (c : Creation) : List KeyConstraint :=
  c.lines.filterMap fun
    | .column _ => none
    | .key k => some k

/-- Reads the creation of a table. -/
def creation (d : Dialect) (constraintName : Reader String) : Reader Creation := do
  expect "CREATE TABLE "
  let table ← quoted d.identifierStyle
  expect " (\n"
  let lines ← separated (tableLine d constraintName) ",\n" <|> (do return [])
  expect "\n)"
  let options ← tableOptions
  expect ";"
  return ⟨table, lines, options⟩

/-! ### Columns -/

variable {d : Dialect}

/-- The text does not go on with more of a clause. -/
def EndsClause (d : Dialect) (rest : List Char) : Prop :=
  NotBefore d.literalStyle.mark rest ∧ ¬ " AUTOINCREMENT".toList <+: rest

/-- Nothing that can follow the type of a column goes on with a clause before it. -/
theorem endsClause_of_atStop {rest : List Char} (h : AtStop typeEnds rest) :
  EndsClause d rest
  := by
  have hstops : ∀ stop ∈ typeEnds, ¬ " AUTOINCREMENT".toList <+: stop.toList
      ∧ ¬ stop.toList <+: " AUTOINCREMENT".toList := by
    decide +kernel
  constructor
  · apply notBefore_of_atStop h
    cases d <;> decide +kernel
  · obtain ⟨stop, hstop, hprefix⟩ := h
    obtain ⟨hs, he⟩ := hstops stop hstop
    exact not_prefix_of_startsWith hprefix hs he

/-- A clause that is a fixed text is read if none of those before it can stand there. -/
theorem reads_fixedClause (before : List (String × ColumnClause))
    {after : List (String × ColumnClause)} {s : String} {c : ColumnClause}
    (h : clauseKeywords = before ++ (s, c) :: after)
    (hbefore : ∀ p ∈ before, ∀ rest, EndsClause d rest → ¬ p.1.toList <+: s.toList ++ rest) :
  Reads (clause d) c (textOf d [.code s]) (EndsClause d)
  := by
  rw [textOf_code]
  exact (reads_keyword h hbefore).orElse_left

/-- Each clause is read as what it is. -/
theorem reads_clause (c : ColumnClause) :
  Reads (clause d) c (textOf d c.fragments) (EndsClause d)
  := by
  have hother : ∀ (before : List (String × ColumnClause)) (s : String),
      (∀ p ∈ before, ¬ p.1.toList <+: s.toList ∧ ¬ s.toList <+: p.1.toList) →
      ∀ p ∈ before, ∀ rest, ¬ p.1.toList <+: s.toList ++ rest := by
    intro before s h p hp rest
    obtain ⟨hps, hsp⟩ := h p hp
    exact not_prefix_of_startsWith (List.prefix_append _ _) hps hsp
  cases c with
  | notNull => exact reads_fixedClause [] rfl (by simp)
  | autoIncrement =>
    apply reads_fixedClause (clauseKeywords.take 1) rfl
    intro p hp rest _
    exact hother _ _ (by decide) p hp rest
  | identity =>
    apply reads_fixedClause (clauseKeywords.take 2) rfl
    intro p hp rest _
    exact hother _ _ (by decide) p hp rest
  | countedKey =>
    apply reads_fixedClause (clauseKeywords.take 3) rfl
    intro p hp rest _
    exact hother _ _ (by decide) p hp rest
  | primaryKey =>
    -- The longer key clause comes first, so the text must not go on with the rest of it.
    apply reads_fixedClause (clauseKeywords.take 3 ++ [("PRIMARY KEY AUTOINCREMENT", .countedKey)])
      rfl
    intro p hp rest hrest
    rcases List.mem_append.mp hp with hp | hp
    · exact hother _ _ (by decide) p hp rest
    · rw [List.mem_singleton.mp hp]
      intro hprefix
      exact hrest.2 ((List.prefix_append_right_inj "PRIMARY KEY".toList).mp hprefix)
  | unique =>
    apply reads_fixedClause (clauseKeywords.take 5) rfl
    intro p hp rest _
    exact hother _ _ (by decide) p hp rest
  | comment text =>
    have htext : textOf d (ColumnClause.comment text).fragments
        = "COMMENT ".toList ++ d.literalStyle.encode text.toList := by
      simp [ColumnClause.fragments, textOf, Fragment.write]
    rw [htext]
    apply Reads.orElse_right
    · apply (reads_expect "COMMENT ").bind _ (fun _ _ => trivial)
      exact ((reads_quoted d.literalStyle text).mono fun _ h => h.1).bind_pure _
    · intro rest _
      apply keyword_eq_none
      rw [List.append_assoc]
      intro p hp
      exact hother clauseKeywords "COMMENT " (by decide) p hp _

/-- A clause is a fixed text or a description. -/
theorem ColumnClause.fixed_or_comment (c : ColumnClause) :
  (∃ s, (s, c) ∈ clauseKeywords ∧ c.fragments = [.code s]) ∨ ∃ text, c = .comment text
  := by
  cases c with
  | comment text => exact Or.inr ⟨text, rfl⟩
  | notNull => exact Or.inl ⟨"NOT NULL", by decide, rfl⟩
  | autoIncrement => exact Or.inl ⟨"AUTO_INCREMENT", by decide, rfl⟩
  | identity => exact Or.inl ⟨"GENERATED ALWAYS AS IDENTITY", by decide, rfl⟩
  | countedKey => exact Or.inl ⟨"PRIMARY KEY AUTOINCREMENT", by decide, rfl⟩
  | primaryKey => exact Or.inl ⟨"PRIMARY KEY", by decide, rfl⟩
  | unique => exact Or.inl ⟨"UNIQUE", by decide, rfl⟩

/-- A type ends where a clause begins. -/
theorem atStop_clause (c : ColumnClause) (rest : List Char) :
  AtStop typeEnds (textOf d (.code " " :: c.fragments) ++ rest)
  := by
  rcases c.fixed_or_comment with ⟨s, hs, hfragments⟩ | ⟨text, rfl⟩
  · use " " ++ s
    constructor
    · apply List.mem_append_left
      exact List.mem_map_of_mem (f := fun p => " " ++ p.1) hs
    · rw [hfragments, textOf_code_cons, textOf_code, ← String.toList_append]
      apply List.prefix_append
  · use " COMMENT ", by decide
    rw [ColumnClause.fragments, textOf_code_cons, textOf_code_cons, ← List.append_assoc,
      ← String.toList_append, List.append_assoc]
    apply List.prefix_append

theorem reads_nextClause (c : ColumnClause) :
  Reads (nextClause d) c (textOf d (.code " " :: c.fragments)) (EndsClause d)
  := by
  rw [textOf_code_cons]
  exact (reads_expect " ").bind (reads_clause c) fun _ _ => trivial

/-- There is no clause where the line ends. -/
theorem nextClause_eq_none {rest : List Char} (h : AtStop lineEnds rest) :
  (nextClause d).run rest = none
  := by
  have hstops : ∀ stop ∈ lineEnds, ¬ " ".toList <+: stop.toList ∧ ¬ stop.toList <+: " ".toList := by
    decide
  obtain ⟨stop, hstop, hprefix⟩ := h
  obtain ⟨hs, he⟩ := hstops stop hstop
  exact expect_bind_eq_none (not_prefix_of_startsWith hprefix hs he)

theorem atStop_typeEnds {rest : List Char} (h : AtStop lineEnds rest) :
  AtStop typeEnds rest
  := by
  apply h.mono
  decide

/-- The clauses of a column are read to the end of the line. -/
theorem reads_clauses (clauses : List ColumnClause) :
  Reads (many (nextClause d)) clauses
    (textOf d (clauses.flatMap fun clause => .code " " :: clause.fragments)) (AtStop lineEnds)
  := by
  have hread : Reads (many (nextClause d)) (clauses.map id)
      (clauses.flatMap fun clause => textOf d (.code " " :: clause.fragments))
      (AtStop lineEnds) := by
    apply reads_many _ (fun c _ => reads_nextClause c)
    · intro c _ rest
      exact endsClause_of_atStop (atStop_clause c rest)
    · intro rest hrest
      constructor
      · exact endsClause_of_atStop (atStop_typeEnds hrest)
      · exact nextClause_eq_none hrest
    · intro c _
      rw [textOf_code_cons]
      simp
  rw [List.map_id] at hread
  rwa [textOf, List.flatMap_assoc]

/-- What follows the type of a column ends it. -/
theorem atStop_clauses (clauses : List ColumnClause) {rest : List Char} (h : AtStop lineEnds rest) :
  AtStop typeEnds
    (textOf d (clauses.flatMap fun clause => .code " " :: clause.fragments) ++ rest)
  := by
  cases clauses with
  | nil => exact atStop_typeEnds h
  | cons c clauses =>
    rw [List.flatMap_cons, textOf_append, List.append_assoc]
    apply atStop_clause

/-- The type of a column ends where it ends, and not before. -/
def Column.IsLegible (c : Column) : Prop :=
  ∀ rest, AtStop typeEnds rest → Lacks typeEnds c.type.toList rest

theorem reads_column {c : Column} (h : c.IsLegible) :
  Reads (column d) c (textOf d c.fragments) (AtStop lineEnds)
  := by
  have htext : textOf d c.fragments = textOf d [.identifier c.name] ++ (" ".toList
      ++ (c.type.toList
        ++ textOf d (c.clauses.flatMap fun clause => .code " " :: clause.fragments))) := by
    simp [Column.fragments, textOf, Fragment.write]
  rw [htext]
  apply (reads_identifier c.name).bind
  · apply (reads_expect " ").bind _ (fun _ _ => trivial)
    apply (reads_upTo c.type).bind ((reads_clauses c.clauses).bind_pure _)
    intro rest hrest
    have hend := atStop_clauses (d := d) c.clauses hrest
    exact ⟨hend, h _ hend⟩
  · intro rest _
    exact notBefore_identifierMark (by decide) _

/-! ### Keys -/

theorem reads_keyColumns {names : List String} (hne : names ≠ []) :
  Reads (keyColumns d) names
    ("PRIMARY KEY (".toList ++ (textOf d (columnList names) ++ ")".toList)) Anything
  := by
  apply (reads_expect "PRIMARY KEY (").bind _ (fun _ _ => trivial)
  apply (reads_columnList hne).bind ((reads_expect ")").bind_pure _)
  intro rest _
  apply List.prefix_append

/-- The constraint has columns, and its name can be read. -/
structure KeyConstraint.IsLegible (constraintName : Reader String) (k : KeyConstraint) : Prop where
  columns_ne : k.columns ≠ []
  name : ∀ name ∈ k.name, Reads constraintName name name.toList (StartsWith " ")

variable {constraintName : Reader String}

/-- The text of a constraint, with and without a name. -/
theorem textOf_key (k : KeyConstraint) :
  textOf d k.fragments
    = (k.name.elim [] fun name => "CONSTRAINT ".toList ++ (name.toList ++ " ".toList))
      ++ ("PRIMARY KEY (".toList ++ (textOf d (columnList k.columns) ++ ")".toList))
  := by
  cases h : k.name <;> simp [KeyConstraint.fragments, h, textOf, Fragment.write]

theorem reads_keyConstraint {k : KeyConstraint} (h : k.IsLegible constraintName) :
  Reads (keyConstraint d constraintName) k (textOf d k.fragments) Anything
  := by
  obtain ⟨name, names⟩ := k
  have hcolumns := reads_keyColumns (d := d) h.columns_ne
  rw [textOf_key]
  cases name with
  | none => exact (hcolumns.bind_pure _).orElse_left
  | some name =>
    rw [Option.elim_some, List.append_assoc, List.append_assoc]
    apply Reads.orElse_right
    · apply (reads_expect "CONSTRAINT ").bind _ (fun _ _ => trivial)
      apply (h.name name rfl).bind
      · apply (reads_expect " ").bind _ (fun _ _ => trivial)
        exact hcolumns.bind_pure _
      · intro rest _
        apply List.prefix_append
    · intro rest _
      exact bind_eq_none (expect_bind_fails (by decide) (by decide) rest)

/-! ### Lines -/

/-- A line between the parentheses as it is written. -/
def TableLine.fragments : TableLine → List Fragment
  | column c => .code "    " :: c.fragments
  | key k => .code "    " :: k.fragments

/-- What has to be legible of a line. -/
def TableLine.IsLegible (constraintName : Reader String) : TableLine → Prop
  | column c => c.IsLegible
  | key k => k.IsLegible constraintName

/-- A key constraint is not taken for a column, as it does not begin with a name. -/
theorem notBefore_key (k : KeyConstraint) (rest : List Char) :
  NotBefore d.identifierStyle.mark (textOf d k.fragments ++ rest)
  := by
  rw [textOf_key]
  cases k.name with
  | none => exact notBefore_identifierMark (by decide) _
  | some name => exact notBefore_identifierMark (by decide) _

theorem reads_tableLine {l : TableLine} (h : l.IsLegible constraintName) :
  Reads (tableLine d constraintName) l (textOf d l.fragments) (AtStop lineEnds)
  := by
  cases l with
  | column c =>
    rw [TableLine.fragments, textOf_code_cons]
    apply (reads_expect "    ").bind _ (fun _ _ => trivial)
    exact ((reads_column h).bind_pure _).orElse_left
  | key k =>
    rw [TableLine.fragments, textOf_code_cons]
    apply (reads_expect "    ").bind _ (fun _ _ => trivial)
    have hkey : Reads (keyConstraint d constraintName) k (textOf d k.fragments) (AtStop lineEnds) :=
      (reads_keyConstraint h).mono fun _ _ => trivial
    apply (hkey.bind_pure _).orElse_right
    intro rest _
    exact bind_eq_none (quoted_bind_eq_none (notBefore_key k rest))

/-- Lines with commas between them are read to the closing parenthesis. -/
theorem reads_lines {lines : List TableLine} (h : ∀ l ∈ lines, l.IsLegible constraintName) :
  Reads (separated (tableLine d constraintName) ",\n" <|> (do return [])) lines
    (textOf d (separatedBy ",\n" (lines.map TableLine.fragments))) (StartsWith "\n)")
  := by
  by_cases hne : lines = []
  · rw [hne]
    apply Reads.orElse_right
    · intro rest _
      rfl
    · intro rest hrest
      have hline : (tableLine d constraintName).run rest = none :=
        expect_bind_eq_none (not_prefix_of_startsWith hrest (by decide) (by decide))
      change separated (tableLine d constraintName) ",\n" rest = none
      rw [separated, hline]
  · apply Reads.orElse_left
    have hread : Reads (separated (tableLine d constraintName) ",\n") (lines.map id)
        (textOf d (separatedBy ",\n" (lines.map TableLine.fragments))) (StartsWith "\n)") := by
      apply reads_separatedBy hne (fun l hl => reads_tableLine (h l hl)) _ _ (by decide)
      · intro rest
        exact ⟨",\n", by decide, List.prefix_append _ _⟩
      · intro rest
        exact ⟨"\n)", by decide, List.prefix_append _ _⟩
    rwa [List.map_id] at hread

/-! ### The creation of a table -/

theorem reads_tableOptions {options : Option String}
    (h : ∀ text ∈ options, ';' ∉ text.toList) :
  Reads tableOptions options
    (textOf d (options.elim [] fun text => [.code " ", .code text])) (StartsWith ";")
  := by
  cases options with
  | none =>
    apply Reads.orElse_right
    · intro rest _
      rfl
    · intro rest hrest
      exact expect_bind_eq_none (not_prefix_of_startsWith hrest (by decide) (by decide))
  | some text =>
    rw [Option.elim_some, textOf_code_cons, textOf_code]
    apply Reads.orElse_left
    apply (reads_expect " ").bind _ (fun _ _ => trivial)
    apply Reads.bind_pure
    apply (reads_upTo text).mono
    intro rest hrest
    constructor
    · exact ⟨";", by decide, hrest⟩
    · apply lacks_of_forall
      intro stop hstop
      rw [List.mem_singleton.mp hstop]
      exact decide_eq_true (h text rfl)

namespace Creation

variable {c : Creation}

/-- The creation of a table as it is written. -/
def fragments (c : Creation) : List Fragment :=
  [.code "CREATE TABLE ", .identifier c.table, .code " (\n"]
    ++ separatedBy ",\n" (c.lines.map TableLine.fragments)
    ++ [.code "\n)"]
    ++ c.options.elim [] (fun text => [.code " ", .code text])
    ++ [.code ";"]

/-- The lines are legible, and what is written after them does not end the statement. -/
structure IsLegible (constraintName : Reader String) (c : Creation) : Prop where
  lines : ∀ l ∈ c.lines, l.IsLegible constraintName
  options : ∀ text ∈ c.options, ';' ∉ text.toList

/-- The creation of a table is read back. -/
theorem reads_fragments (h : c.IsLegible constraintName) :
  Reads (creation d constraintName) c (textOf d c.fragments) Anything
  := by
  have htext : textOf d c.fragments = "CREATE TABLE ".toList ++ (textOf d [.identifier c.table]
      ++ (" (\n".toList ++ (textOf d (separatedBy ",\n" (c.lines.map TableLine.fragments))
        ++ ("\n)".toList ++ (textOf d (c.options.elim [] fun text => [.code " ", .code text])
          ++ ";".toList))))) := by
    simp [fragments, textOf, Fragment.write]
  rw [htext]
  apply (reads_expect "CREATE TABLE ").bind _ (fun _ _ => trivial)
  apply (reads_identifier c.table).bind
  · apply (reads_expect " (\n").bind _ (fun _ _ => trivial)
    apply (reads_lines h.lines).bind
    · apply (reads_expect "\n)").bind _ (fun _ _ => trivial)
      apply (reads_tableOptions h.options).bind ((reads_expect ";").bind_pure _)
      intro rest _
      apply List.prefix_append
    · intro rest _
      rw [List.append_assoc]
      apply List.prefix_append
  · intro rest _
    exact notBefore_identifierMark (by decide) _

end Creation

end SqlScribe.Statement
