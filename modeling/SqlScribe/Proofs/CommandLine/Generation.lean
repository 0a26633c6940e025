import SqlScribe.CommandLine.Execution
import Mathlib.Tactic.Use

/-!
# Generation of statements

What is left of a command that generates statements.  A `Generation` goes through five stages: the
document of the table is read and decoded, the table is validated in the dialect that is
given, and the rows, if there are any to insert, are read and decoded.  What goes wrong at a
stage (`Generation.Fails`) is said of each stage by itself, and what the statements are
(`Generation.Yields`) without the stages.  A command fails as its first failing stage does and
writes nothing then, and otherwise it writes all its statements (`settles_run`).
-/

namespace SqlScribe.CommandLine

/-- The generation of statements that a command asks for. -/
structure Generation where
  /-- The path of the table. -/
  table : String
  /-- The path of the rows, if rows are to be inserted. -/
  rows : Option String
  /-- The name of the dialect in the arguments. -/
  dialect : Option String

namespace Generation

/-- The command that asks for a generation. -/
def command (g : Generation) : Command :=
  match g.rows with
  | none => .ddl g.table g.dialect
  | some rows => .dml g.table rows g.dialect

/-- The name of the dialect that is given, by the arguments or else by the variable. -/
def given (g : Generation) (w : Surroundings) : Option String :=
  match g.dialect with
  | some name => some name
  | none => w.dialect

/-- The table that the statements are about. -/
def target (g : Generation) (w : Surroundings) (t : Table) : Table :=
  match g.given w with
  | some name => { t with dialect := Dialect.ofNameOrDefault name }
  | none => t

end Generation

/-- The stages of a generation. -/
inductive Stage where
  /-- The document of the table is read. -/
  | readTable
  /-- The document of the table is decoded. -/
  | decodeTable
  /-- The table is validated. -/
  | validate
  /-- The document of the rows is read. -/
  | readRows
  /-- The document of the rows is decoded. -/
  | decodeRows

/-- The stages in order. -/
def Stage.all : List Stage :=
  [readTable, decodeTable, validate, readRows, decodeRows]

namespace Generation

/-- A stage goes wrong. -/
inductive Fails (g : Generation) (w : Surroundings) : Stage → Failure → Prop
  /-- The document of the table cannot be read. -/
  | readTable {f : Failure} (hread : w.readFile g.table = .error f) : Fails g w .readTable f
  /-- The document is not that of a table. -/
  | decodeTable {text : String} {fault : Json.Fault} (hread : w.readFile g.table = .ok text)
    (hdecode : Table.ofJson text = .error fault) : Fails g w .decodeTable (.document g.table fault)
  /-- The table has a defect. -/
  | validate {text : String} {t : Table} {defect : Defect} (hread : w.readFile g.table = .ok text)
    (hdecode : Table.ofJson text = .ok t) (hdefect : (g.target w t).defect? = some defect) :
    Fails g w .validate (.table g.table defect)
  /-- The document of the rows cannot be read. -/
  | readRows {path : String} {f : Failure} (hrows : g.rows = some path)
    (hread : w.readFile path = .error f) : Fails g w .readRows f
  /-- The document is not that of rows. -/
  | decodeRows {path text : String} {fault : Json.Fault} (hrows : g.rows = some path)
    (hread : w.readFile path = .ok text) (hdecode : Row.listOfJson text = .error fault) :
    Fails g w .decodeRows (.document path fault)

/-- Nothing goes wrong at a stage. -/
def GoesWell (g : Generation) (w : Surroundings) (s : Stage) : Prop :=
  ∀ f, ¬ g.Fails w s f

/-- What goes wrong at the first stage that does not go well. -/
def FirstFails (g : Generation) (w : Surroundings) (f : Failure) : Prop :=
  ∃ before s after, Stage.all = before ++ s :: after ∧ g.Fails w s f
    ∧ ∀ s' ∈ before, g.GoesWell w s'

/-- The table that is loaded has no defect. -/
structure Loads (g : Generation) (w : Surroundings) (t : Table) : Prop where
  /-- It is the table of the document in the dialect that is given. -/
  decoded : ∃ text original, w.readFile g.table = .ok text ∧ Table.ofJson text = .ok original
    ∧ t = g.target w original
  /-- It has no defect. -/
  valid : t.defect? = none

/-- The text of the statements that are asked for. -/
inductive Yields (g : Generation) (w : Surroundings) : String → Prop
  /-- The statements create the table. -/
  | create {t : Table} (hrows : g.rows = none) (ht : g.Loads w t) :
    Yields g w (t.createSql ++ "\n")
  /-- There are no rows to insert. -/
  | nothing {path text : String} {t : Table} (hrows : g.rows = some path) (ht : g.Loads w t)
    (hread : w.readFile path = .ok text) (hdecode : Row.listOfJson text = .ok []) : Yields g w ""
  /-- The statements insert rows. -/
  | insert {path text : String} {t : Table} {row : Row} {rows : List Row}
    (hrows : g.rows = some path) (ht : g.Loads w t) (hread : w.readFile path = .ok text)
    (hdecode : Row.listOfJson text = .ok (row :: rows)) :
    Yields g w (t.insertSql (row :: rows) ++ "\n")

end Generation

namespace Outcome

/-- Nothing is written but the failure. -/
structure FailsWith (o : Outcome) (f : Failure) : Prop where
  /-- The exit code tells of the failure. -/
  exitCode : o.exitCode = 1
  /-- The standard output is empty. -/
  output : o.output = ""
  /-- The failure is reported. -/
  failure : o.failure = some f

/-- The output is written without a failure. -/
structure Writes (o : Outcome) (output : String) : Prop where
  /-- The exit code tells of no failure. -/
  exitCode : o.exitCode = 0
  /-- The standard output is the output. -/
  output : o.output = output
  /-- No failure is reported. -/
  failure : o.failure = none

end Outcome

/-- The generation has an outcome: the failure of its first failing stage, or, if no stage goes
wrong, the output that it yields. -/
def Generation.Settles (g : Generation) (w : Surroundings) (o : Outcome) : Prop :=
  (∃ f, g.FirstFails w f ∧ o.FailsWith f)
    ∨ (∀ s, g.GoesWell w s) ∧ ∃ output, g.Yields w output ∧ o.Writes output

variable {w : Surroundings} {g : Generation} {f : Failure}

/-! ### Results of commands -/

theorem failsWith_run {c : Command} {verbose : Bool} (h : (execute w c).result = .error f) :
  (run w ⟨verbose, c⟩).FailsWith f
  := by
  constructor <;> simp [run, h]

theorem writes_run {c : Command} {verbose : Bool} {output : String}
    (h : (execute w c).result = .ok output) :
  (run w ⟨verbose, c⟩).Writes output
  := by
  constructor <;> simp [run, h]

theorem result_andThen {α β : Type} (s : Step α) (next : α → Step β) :
  (s.andThen next).result = s.result.bind fun x => (next x).result
  := by
  unfold Step.andThen
  cases s.result with
  | error f => rfl
  | ok x => rfl

theorem retarget_eq_target (t : Table) :
  retarget t (g.dialect <|> w.dialect) = g.target w t
  := by
  cases hg : g.dialect with
  | none => cases hw : w.dialect with
    | none => simp [retarget, Generation.target, Generation.given, hg, hw]
    | some name => simp [retarget, Generation.target, Generation.given, hg, hw, Table.withDialect]
  | some name => simp [retarget, Generation.target, Generation.given, hg, Table.withDialect]

theorem result_readTable (path text : String) :
  (readTable path text).result =
    match Table.ofJson text with
    | .ok t => .ok t
    | .error fault => .error (.document path fault)
  := rfl

theorem result_checkTable (path : String) (dialect : Option String) (t : Table) :
  (checkTable path dialect t).result =
    match (retarget t dialect).defect? with
    | some defect => .error (.table path defect)
    | none => .ok (retarget t dialect)
  := by
  simp only [checkTable]
  cases (retarget t dialect).defect? <;> rfl

/-- What loading a table results in, from stage to stage. -/
theorem result_loadTable (w : Surroundings) (g : Generation) :
  (loadTable w g.table g.dialect).result =
    match w.readFile g.table with
    | .error f => .error f
    | .ok text =>
      match Table.ofJson text with
      | .error fault => .error (.document g.table fault)
      | .ok t =>
        match (g.target w t).defect? with
        | some defect => .error (.table g.table defect)
        | none => .ok (g.target w t)
  := by
  rw [loadTable, result_andThen, result_andThen, Step.of]
  cases w.readFile g.table with
  | error f => rfl
  | ok text =>
    simp only [Except.bind, result_readTable]
    cases Table.ofJson text with
    | error fault => rfl
    | ok t => simp only [result_checkTable, retarget_eq_target]

theorem result_loadRows (w : Surroundings) (path : String) :
  (loadRows w path).result =
    match w.readFile path with
    | .error f => .error f
    | .ok text =>
      match Row.listOfJson text with
      | .error fault => .error (.document path fault)
      | .ok rows => .ok rows
  := by
  rw [loadRows, result_andThen, Step.of]
  cases w.readFile path with
  | error f => rfl
  | ok text =>
    simp only [Except.bind]
    cases Row.listOfJson text <;> rfl

theorem result_execute_create (hrows : g.rows = none) :
  (execute w g.command).result
    = (loadTable w g.table g.dialect).result.bind fun t => .ok (t.createSql ++ "\n")
  := by
  rw [Generation.command, hrows]
  apply result_andThen

theorem result_execute_insert {path : String} (hrows : g.rows = some path) :
  (execute w g.command).result
    = (loadTable w g.table g.dialect).result.bind fun t =>
        (loadRows w path).result.bind fun rows => (insert t rows).result
  := by
  rw [Generation.command, hrows]
  apply (result_andThen _ _).trans
  simp only [result_andThen]

theorem result_execute_of_loadTable (h : (loadTable w g.table g.dialect).result = .error f) :
  (execute w g.command).result = .error f
  := by
  cases hrows : g.rows with
  | none => rw [result_execute_create hrows, h, Except.bind]
  | some path => rw [result_execute_insert hrows, h, Except.bind]

/-! ### All or nothing -/

section Stages

variable {text : String} {t : Table} {path : String}

theorem goesWell_readTable (hread : w.readFile g.table = .ok text) :
  g.GoesWell w .readTable
  := by
  intro f h
  cases h with
  | readTable hread' => cases hread.symm.trans hread'

theorem goesWell_decodeTable (hread : w.readFile g.table = .ok text)
    (hdecode : Table.ofJson text = .ok t) :
  g.GoesWell w .decodeTable
  := by
  intro f h
  cases h with
  | decodeTable hread' hdecode' =>
    cases hread.symm.trans hread'
    cases hdecode.symm.trans hdecode'

theorem goesWell_validate (hread : w.readFile g.table = .ok text)
    (hdecode : Table.ofJson text = .ok t) (hdefect : (g.target w t).defect? = none) :
  g.GoesWell w .validate
  := by
  intro f h
  cases h with
  | validate hread' hdecode' hdefect' =>
    cases hread.symm.trans hread'
    cases hdecode.symm.trans hdecode'
    cases hdefect.symm.trans hdefect'

/-- Without rows nothing goes wrong with them. -/
theorem goesWell_rows_of_none (hrows : g.rows = none) :
  g.GoesWell w .readRows ∧ g.GoesWell w .decodeRows
  := by
  constructor <;> intro f h
  · cases h with
    | readRows hrows' hread => cases hrows.symm.trans hrows'
  · cases h with
    | decodeRows hrows' hread hdecode => cases hrows.symm.trans hrows'

theorem goesWell_readRows (hrows : g.rows = some path) (hread : w.readFile path = .ok text) :
  g.GoesWell w .readRows
  := by
  intro f h
  cases h with
  | readRows hrows' hread' =>
    cases hrows.symm.trans hrows'
    cases hread.symm.trans hread'

theorem goesWell_decodeRows {rows : List Row} (hrows : g.rows = some path)
    (hread : w.readFile path = .ok text) (hdecode : Row.listOfJson text = .ok rows) :
  g.GoesWell w .decodeRows
  := by
  intro f h
  cases h with
  | decodeRows hrows' hread' hdecode' =>
    cases hrows.symm.trans hrows'
    cases hread.symm.trans hread'
    cases hdecode.symm.trans hdecode'

end Stages

/-- A failure ends the command if its stage is the first one that goes wrong. -/
theorem settles_of_fails {verbose : Bool} {before after : List Stage} {s : Stage}
    (hall : Stage.all = before ++ s :: after) (hbefore : ∀ s' ∈ before, g.GoesWell w s')
    (hfails : g.Fails w s f) (hexecute : (execute w g.command).result = .error f) :
  g.Settles w (run w ⟨verbose, g.command⟩)
  := by
  left
  use f, ⟨before, s, after, hall, hfails, hbefore⟩
  apply failsWith_run hexecute

/-- If no stage goes wrong, the command writes what it yields. -/
theorem settles_of_goesWell {verbose : Bool} {output : String}
    (hwell : ∀ s ∈ Stage.all, g.GoesWell w s) (hyields : g.Yields w output)
    (hexecute : (execute w g.command).result = .ok output) :
  g.Settles w (run w ⟨verbose, g.command⟩)
  := by
  right
  use fun s => hwell s (by cases s <;> simp [Stage.all]), output, hyields
  apply writes_run hexecute

/-- Once the table is loaded, the rows that are asked for are read and inserted. -/
theorem settles_loaded_rows {t : Table} {path : String} (verbose : Bool) (ht : g.Loads w t)
    (hload : (loadTable w g.table g.dialect).result = .ok t)
    (hloaded : ∀ s ∈ [Stage.readTable, .decodeTable, .validate], g.GoesWell w s)
    (hrows : g.rows = some path) :
  g.Settles w (run w ⟨verbose, g.command⟩)
  := by
  have hexecute := result_execute_insert (w := w) hrows
  rw [hload, Except.bind, result_loadRows] at hexecute
  cases hread : w.readFile path with
  | error f =>
    simp only [hread, Except.bind] at hexecute
    apply settles_of_fails rfl hloaded (.readRows hrows hread) hexecute
  | ok text =>
    have hreadable := List.forall_mem_append.mpr
      ⟨hloaded, List.forall_mem_singleton.mpr (goesWell_readRows hrows hread)⟩
    cases hdecode : Row.listOfJson text with
    | error fault =>
      simp only [hread, hdecode, Except.bind] at hexecute
      apply settles_of_fails rfl hreadable (.decodeRows hrows hread hdecode) hexecute
    | ok rows =>
      simp only [hread, hdecode, Except.bind] at hexecute
      have hwell := List.forall_mem_append.mpr
        ⟨hreadable, List.forall_mem_singleton.mpr (goesWell_decodeRows hrows hread hdecode)⟩
      cases rows with
      | nil => apply settles_of_goesWell hwell (.nothing hrows ht hread hdecode) hexecute
      | cons row rows => apply settles_of_goesWell hwell (.insert hrows ht hread hdecode) hexecute

/-- Once the table is loaded, the command creates it, or it reads the rows and inserts them. -/
theorem settles_loaded {t : Table} (verbose : Bool) (ht : g.Loads w t)
    (hload : (loadTable w g.table g.dialect).result = .ok t)
    (hloaded : ∀ s ∈ [Stage.readTable, .decodeTable, .validate], g.GoesWell w s) :
  g.Settles w (run w ⟨verbose, g.command⟩)
  := by
  cases hrows : g.rows with
  | none =>
    obtain ⟨hread, hdecode⟩ := goesWell_rows_of_none (w := w) hrows
    have hexecute := result_execute_create (w := w) hrows
    rw [hload, Except.bind] at hexecute
    have hwell := List.forall_mem_append.mpr
      ⟨hloaded, List.forall_mem_cons.mpr ⟨hread, List.forall_mem_singleton.mpr hdecode⟩⟩
    apply settles_of_goesWell hwell (.create hrows ht) hexecute
  | some path => apply settles_loaded_rows verbose ht hload hloaded hrows

/-- A command that generates statements fails as its first failing stage does, or no stage goes
wrong and it writes what it yields. -/
theorem settles_run (w : Surroundings) (verbose : Bool) (g : Generation) :
  g.Settles w (run w ⟨verbose, g.command⟩)
  := by
  have hload := result_loadTable w g
  cases hread : w.readFile g.table with
  | error f =>
    simp only [hread] at hload
    apply settles_of_fails rfl (List.forall_mem_nil _) (.readTable hread)
      (result_execute_of_loadTable hload)
  | ok text =>
    have hreadable := List.forall_mem_singleton.mpr (goesWell_readTable hread)
    cases hdecode : Table.ofJson text with
    | error fault =>
      simp only [hread, hdecode] at hload
      apply settles_of_fails rfl hreadable (.decodeTable hread hdecode)
        (result_execute_of_loadTable hload)
    | ok t =>
      have hdecoded := List.forall_mem_append.mpr
        ⟨hreadable, List.forall_mem_singleton.mpr (goesWell_decodeTable hread hdecode)⟩
      cases hdefect : (g.target w t).defect? with
      | some defect =>
        simp only [hread, hdecode, hdefect] at hload
        apply settles_of_fails rfl hdecoded (.validate hread hdecode hdefect)
          (result_execute_of_loadTable hload)
      | none =>
        simp only [hread, hdecode, hdefect] at hload
        have hloaded := List.forall_mem_append.mpr
          ⟨hdecoded, List.forall_mem_singleton.mpr (goesWell_validate hread hdecode hdefect)⟩
        apply settles_loaded verbose ⟨⟨text, t, hread, hdecode, rfl⟩, hdefect⟩ hload hloaded

end SqlScribe.CommandLine
