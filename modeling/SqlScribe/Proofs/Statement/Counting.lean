import SqlScribe.Proofs.Statement.TableFaithful

/-!
# Counted columns

The columns that the statements of a table count up are those of the fields that are to be counted,
no more and no fewer (`createSql_counts`).  Three dialects count by a clause of the column.  A
table without a defect counts integers only, and the dialect that asks for an integer type writes
all of these as integers, so there is the clause wherever it is wanted
(`countingClauses_ofField`); only where the clause declares a key does it yield to a compound one.
The fourth dialect has no such clause.  There a sequence and a trigger for each of the fields come
after the table, in the order of the fields and with nothing between or after them: the trigger is
for the table, it draws from the sequence before it and stores what it draws in the column
(`reads_counter`).

The names of sequences and triggers are not quoted, and a table may have a name that goes on like
the statement around it.  So the reader of these statements is told how such names are read.  Names
that can stand without quotes are read as far as they go; any others are given to the reader.
-/

namespace SqlScribe.Statement

open Text Text.Reader

variable {d : Dialect} {f : Field} {t : Table} {inlineKey : Bool}

/-! ### Clauses -/

/-- Whether a clause says that the values of its column are counted up. -/
def ColumnClause.counts (c : ColumnClause) : Bool :=
  c ∈ [.autoIncrement, .identity, .countedKey]

/-- The clauses of a column that say that its values are counted up. -/
def Column.countingClauses (c : Column) : List ColumnClause :=
  c.clauses.filter (·.counts)

/-- The clauses by which the column of a field is to be counted up. -/
def countingClausesOf (t : Table) (f : Field) : List ColumnClause :=
  match t.dialect with
  | .mySql => if f.autoIncrement then [.autoIncrement] else []
  | .postgreSql => if f.autoIncrement then [.identity] else []
  | .sqlite => if f.autoIncrement && !t.hasCompoundKey then [.countedKey] else []
  | .oracle => []

/-- The clauses that count a column up are those that are put there to do so. -/
theorem filter_counts_clausesOf :
  (clausesOf d f inlineKey).filter (·.counts) = (countingClause? d f inlineKey).toList
  := by
  have hnotNull : (if f.isNotNull then [ColumnClause.notNull] else []).filter (·.counts) = [] := by
    split <;> rfl
  have hkey : (if f.primaryKey && inlineKey && countingClause? d f inlineKey != some .countedKey
      then [ColumnClause.primaryKey] else []).filter (·.counts) = [] := by
    split <;> rfl
  have hunique : (if f.unique && !f.primaryKey then [ColumnClause.unique] else []).filter
      (·.counts) = [] := by
    split <;> rfl
  have hcomment : (commentClause? d f).toList.filter (·.counts) = [] := by
    cases h : commentClause? d f with
    | none => rfl
    | some c =>
      obtain ⟨-, text, -, rfl⟩ := exists_of_commentClause? h
      rfl
  have hcounting : (countingClause? d f inlineKey).toList.filter (·.counts)
      = (countingClause? d f inlineKey).toList := by
    cases h : countingClause? d f inlineKey with
    | none => rfl
    | some c =>
      have hc : c.counts = true := decide_eq_true (mem_of_countingClause? h)
      rw [Option.toList_some, List.filter_singleton, hc]
      rfl
  rw [clausesOf_eq]
  simp only [List.filter_append, hnotNull, hcounting, hkey, hunique, hcomment, List.nil_append,
    List.append_nil]

/-- All integers have an integer type in the dialect that asks for one. -/
theorem isIntegerTypeName_of_isInteger {type : ColumnType} (h : type.isInteger = true) :
  isIntegerTypeName (Dialect.postgreSql.typeName type) = true
  := by
  revert h
  cases type <;> decide

/-- If only integers are counted, the column of a field is counted up as it is to be. -/
theorem countingClauses_ofField (h : f.autoIncrement = true → f.type.isInteger = true) :
  (Column.ofField t.dialect f (!t.hasCompoundKey)).countingClauses = countingClausesOf t f
  := by
  change (clausesOf t.dialect f (!t.hasCompoundKey)).filter (·.counts) = _
  rw [filter_counts_clausesOf, countingClause?, countingClausesOf]
  cases hauto : f.autoIncrement with
  | false => cases t.dialect <;> rfl
  | true =>
    cases t.dialect with
    | mySql => rfl
    | postgreSql =>
      have htype := isIntegerTypeName_of_isInteger (h hauto)
      simp [autoIncrementClause?, Dialect.autoIncrementStrategy, htype]
    | sqlite => cases t.hasCompoundKey <;> rfl
    | oracle => rfl

/-! ### Reading the creation of a table -/

/-- Reads the creation of a table, and gives back what it says and the text after it.  The name of a
primary key is the one that goes with the name of the table. -/
def readCreation? (d : Dialect) (sql : String) : Option (Creation × String) := do
  let (table, _) ← (tableName d).run sql.toList
  let (c, rest) ← (creation d (exactly ("PK_" ++ upperCase table))).run sql.toList
  return (c, String.ofList rest)

/-- The creation of any table is read, and what is left are the statements after it. -/
theorem readCreation?_createSql (t : Table) :
  readCreation? t.dialect t.createSql
    = some ((CreateTable.ofTable t).created,
      write t.dialect (CreateTable.ofTable t).supplementFragments)
  := by
  obtain ⟨more, hbegins⟩ := createSql_begins t
  have hname : (tableName t.dialect).run t.createSql.toList
      = some (t.name, " (\n".toList ++ more) := by
    rw [hbegins]
    exact reads_tableName t.name _ (List.prefix_append _ _)
  have hcreation := run_creation_createSql (hasLegibleKey_exactly t)
  simp only [readCreation?, hname, hcreation, bind, Option.bind, pure]
  rfl

/-! ### Reading sequences and triggers -/

/-- A sequence and a trigger after it, as they are read. -/
structure Counter where
  /-- The name of the sequence. -/
  sequence : String
  /-- The name of the trigger. -/
  trigger : String
  /-- The table for which the trigger is. -/
  table : String
  /-- The sequence from which the trigger draws. -/
  source : String
  /-- The column in which it stores what it draws. -/
  column : String
  deriving Repr, DecidableEq

/-- How the names of a sequence and of its trigger are read. -/
structure CounterNames where
  /-- Reads the name of the sequence. -/
  sequence : Reader String
  /-- Reads the name of the trigger. -/
  trigger : Reader String

/-- Reads the creation of a sequence, and that of a trigger before insertion that draws from a
sequence, each after an empty line. -/
def counter (d : Dialect) (names : CounterNames) : Reader Counter := do
  expect "\n\nCREATE SEQUENCE "
  let sequence ← names.sequence
  expect " START WITH 1 INCREMENT BY 1;\n\nCREATE OR REPLACE TRIGGER "
  let trigger ← names.trigger
  expect "\nBEFORE INSERT ON "
  let table ← quoted d.identifierStyle
  expect "\nFOR EACH ROW\nBEGIN\n    SELECT "
  let source ← names.sequence
  expect ".NEXTVAL INTO :NEW."
  let column ← quoted d.identifierStyle
  expect " FROM DUAL;\nEND;"
  return ⟨sequence, trigger, table, source, column⟩

/-- Reads sequences with their triggers, one pair for each way of reading their names. -/
def counters (d : Dialect) : List CounterNames → Reader (List Counter)
  | [] => do
    return []
  | names :: others => do
    let first ← counter d names
    let rest ← counters d others
    return first :: rest

/-- The counter of a field of a table. -/
def Counter.ofField (t : Table) (f : Field) : Counter where
  sequence := sequenceName t.name f.name
  trigger := triggerName t.name f.name
  table := t.name
  source := sequenceName t.name f.name
  column := f.name

/-- The statements of the counter of a field. -/
def counterFragments (t : Table) (f : Field) : List Fragment :=
  let c := Counter.ofField t f
  .code "\n\n" :: (Supplement.sequence c.sequence).fragments
    ++ .code "\n\n" :: (Supplement.trigger c.trigger c.table c.source c.column).fragments

/-- Where sequences count, the statements after a table are those of the counters of its fields. -/
theorem supplementFragments_eq (hd : t.dialect = .oracle) :
  (CreateTable.ofTable t).supplementFragments
    = t.autoIncrementFields.flatMap (counterFragments t)
  := by
  rw [CreateTable.supplementFragments, CreateTable.ofTable, supplementsOf, hd]
  dsimp only
  rw [List.flatMap_assoc]
  rfl

/-- The names of a counter are read. -/
structure CounterNames.Reads (names : CounterNames) (c : Counter) : Prop where
  /-- The name of the sequence is read where it is created. -/
  sequence : Reader.Reads names.sequence c.sequence c.sequence.toList
    (StartsWith " START WITH 1 INCREMENT BY 1;\n\nCREATE OR REPLACE TRIGGER ")
  /-- The name of the trigger is read. -/
  trigger : Reader.Reads names.trigger c.trigger c.trigger.toList (StartsWith "\nBEFORE INSERT ON ")
  /-- The name of the sequence is read where it is drawn from. -/
  source : Reader.Reads names.sequence c.source c.source.toList (StartsWith ".NEXTVAL INTO :NEW.")

theorem textOf_counterFragments (t : Table) (f : Field) :
  textOf d (counterFragments t f) = "\n\nCREATE SEQUENCE ".toList
    ++ ((sequenceName t.name f.name).toList
      ++ (" START WITH 1 INCREMENT BY 1;\n\nCREATE OR REPLACE TRIGGER ".toList
        ++ ((triggerName t.name f.name).toList
          ++ ("\nBEFORE INSERT ON ".toList ++ (textOf d [.identifier t.name]
            ++ ("\nFOR EACH ROW\nBEGIN\n    SELECT ".toList
              ++ ((sequenceName t.name f.name).toList ++ (".NEXTVAL INTO :NEW.".toList
                ++ (textOf d [.identifier f.name] ++ " FROM DUAL;\nEND;".toList)))))))))
  := by
  simp [counterFragments, Counter.ofField, Supplement.fragments, textOf, Fragment.write]

/-- The statements of the counter of a field are read as that counter. -/
theorem reads_counter {names : CounterNames} (h : names.Reads (Counter.ofField t f)) :
  Reads (counter d names) (Counter.ofField t f) (textOf d (counterFragments t f)) Anything
  := by
  rw [textOf_counterFragments]
  apply (reads_expect _).bind _ (fun _ _ => trivial)
  apply h.sequence.bind
  · apply (reads_expect _).bind _ (fun _ _ => trivial)
    apply h.trigger.bind
    · apply (reads_expect _).bind _ (fun _ _ => trivial)
      apply (reads_identifier t.name).bind
      · apply (reads_expect _).bind _ (fun _ _ => trivial)
        apply h.source.bind
        · apply (reads_expect _).bind _ (fun _ _ => trivial)
          apply (reads_identifier f.name).bind ((reads_expect _).bind_pure _)
          intro rest _
          exact notBefore_identifierMark (by decide) _
        · intro rest _
          rw [List.append_assoc]
          apply List.prefix_append
      · intro rest _
        exact notBefore_identifierMark (by decide) _
    · intro rest _
      rw [List.append_assoc]
      apply List.prefix_append
  · intro rest _
    rw [List.append_assoc]
    apply List.prefix_append

/-- The statements of the counters of some fields are read as those counters, in their order. -/
theorem reads_counters {namesOf : Field → CounterNames} {fields : List Field}
    (h : ∀ f ∈ fields, (namesOf f).Reads (Counter.ofField t f)) :
  Reads (counters d (fields.map namesOf)) (fields.map (Counter.ofField t))
    (textOf d (fields.flatMap (counterFragments t))) Anything
  := by
  induction fields with
  | nil =>
    intro rest _
    rfl
  | cons f fields ih =>
    have hothers := ih fun g hg => h g (List.mem_cons_of_mem f hg)
    rw [List.flatMap_cons, textOf_append, List.map_cons, List.map_cons]
    apply (reads_counter (h f List.mem_cons_self)).bind _ (fun _ _ => trivial)
    exact hothers.bind_pure _

/-- The names of the counter of a field, when they are given. -/
def givenNames (t : Table) (f : Field) : CounterNames where
  sequence := exactly (sequenceName t.name f.name)
  trigger := exactly (triggerName t.name f.name)

theorem reads_givenNames (t : Table) (f : Field) :
  (givenNames t f).Reads (Counter.ofField t f)
  where
  sequence := (reads_exactly _).mono fun _ _ => trivial
  trigger := (reads_exactly _).mono fun _ _ => trivial
  source := (reads_exactly _).mono fun _ _ => trivial

/-- Names that go as far as unquoted names can go. -/
def bareNames : CounterNames where
  sequence := spanning isBareCharacter
  trigger := spanning isBareCharacter

/-- The names of the counter of a field can stand without quotes. -/
def HasBareCounter (t : Table) (f : Field) : Prop :=
  IsBareText (sequenceName t.name f.name) ∧ IsBareText (triggerName t.name f.name)

instance (t : Table) (f : Field) : Decidable (HasBareCounter t f) :=
  inferInstanceAs (Decidable (_ ∧ _))

/-- A name that can stand without quotes is read before a text that cannot go on with it. -/
theorem reads_bareText_before {name start : String} (h : IsBareText name)
    (hstart : start.toList.head?.any (!isBareCharacter ·) = true) :
  Reads (spanning isBareCharacter) name name.toList (StartsWith start)
  := by
  apply (reads_spanning h).mono
  rintro rest ⟨more, rfl⟩ c hc
  obtain ⟨e, he, hbare⟩ := (Option.any_eq_true _ _).mp hstart
  rw [List.head?_append, he] at hc
  cases hc
  simpa using hbare

theorem reads_bareNames (h : HasBareCounter t f) :
  bareNames.Reads (Counter.ofField t f)
  where
  sequence := reads_bareText_before h.1 (by decide)
  trigger := reads_bareText_before h.2 (by decide)
  source := reads_bareText_before h.1 (by decide)

/-- Counters whose names can stand without quotes are read without knowing how many there are. -/
theorem reads_manyCounters {fields : List Field} (h : ∀ f ∈ fields, HasBareCounter t f) :
  Reads (many (counter d bareNames)) (fields.map (Counter.ofField t))
    (textOf d (fields.flatMap (counterFragments t))) (· = [])
  := by
  rw [textOf, List.flatMap_assoc]
  apply reads_many
  · intro f _
    rw [← textOf, textOf_counterFragments]
    simp
  · intro f hf
    exact reads_counter (reads_bareNames (h f hf))
  · intro f _ rest
    trivial
  · rintro rest rfl
    exact ⟨trivial, rfl⟩

/-! ### Tables -/

/-- In the statements of a table without a defect, the columns are counted up whose fields are to be
counted up.  Where clauses count, the columns of these fields have the clause of the dialect, and no
column has another one; a clause that declares a key is left out beside a compound key.  Where
sequences count, no column has such a clause, and the statements after the table are a sequence and
a trigger for each of the fields, in order: the trigger is for the table, draws from that sequence
and stores in the column of the field. -/
theorem createSql_counts (t : Table) (h : t.defect? = none) :
  ∃ c after, readCreation? t.dialect t.createSql = some (c, after)
    ∧ c.columns.map (fun x => (x.name, x.countingClauses))
      = t.fields.map (fun f => (f.name, countingClausesOf t f))
    ∧ (t.dialect = .oracle →
      whole? (counters .oracle (t.autoIncrementFields.map (givenNames t))) after
          = some (t.autoIncrementFields.map (Counter.ofField t))
        ∧ ((∀ f ∈ t.autoIncrementFields, HasBareCounter t f) →
          whole? (many (counter .oracle bareNames)) after
            = some (t.autoIncrementFields.map (Counter.ofField t))))
  := by
  have hcounted := (Table.defect?_eq_none_iff.mp h).counted
  refine ⟨_, _, readCreation?_createSql t, ?_, ?_⟩
  · rw [CreateTable.columns_created, CreateTable.ofTable, List.map_map]
    apply List.map_congr_left
    intro f hf
    exact congrArg (Prod.mk f.name) (countingClauses_ofField (hcounted f hf))
  · intro hd
    rw [supplementFragments_eq hd, hd, write, ← textOf]
    constructor
    · exact (reads_counters fun f _ => reads_givenNames t f).whole? trivial
    · intro hbare
      exact (reads_manyCounters hbare).whole? rfl

/-- Two counted columns, one of them beside another one in a compound key, and names that go on like
the statements around them. -/
theorem createSql_counts_sequences :
  let t : Table :=
    { name := "a START"
      fields := [{ name := "id", type := .int, primaryKey := true, nullable := false
                   autoIncrement := true },
        { name := "at\"", type := .date, primaryKey := true, nullable := false },
        { name := "x.NEXTVAL INTO", type := .bigInt, autoIncrement := true }]
      dialect := .oracle }
  ∃ c after, readCreation? .oracle t.createSql = some (c, after)
    ∧ c.columns.map (·.countingClauses) = [[], [], []]
    ∧ whole? (counters .oracle (t.autoIncrementFields.map (givenNames t))) after
      = some [⟨"SEQ_A START_ID", "TRG_A START_ID", "a START", "SEQ_A START_ID", "id"⟩,
        ⟨"SEQ_A START_X.NEXTVAL INTO", "TRG_A START_X.NEXTVAL INTO", "a START",
          "SEQ_A START_X.NEXTVAL INTO", "x.NEXTVAL INTO"⟩]
  := by
  intro t
  obtain ⟨c, after, hread, hcolumns, hcounters⟩ := createSql_counts t (by decide)
  have hclauses := congrArg (List.map Prod.snd) hcolumns
  rw [List.map_map, List.map_map] at hclauses
  refine ⟨c, after, hread, hclauses, ?_⟩
  rw [(hcounters rfl).1]
  decide +kernel

end SqlScribe.Statement
