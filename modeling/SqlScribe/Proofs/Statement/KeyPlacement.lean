import Mathlib.Data.List.Nodup
import SqlScribe.Proofs.Schema.FirstDefect
import SqlScribe.Proofs.Statement.Clauses
import SqlScribe.Proofs.Statement.TableReading

/-!
# Where primary keys are declared

The primary key of a table, as it is read from the statement that creates the table: from clauses
of columns and from constraints after the columns.  If the key is one field, the column of the
field has the one clause that declares it, and if it is several, there is one constraint with them
in their order (`readTable?_placesKey`).

Two things stand in the way of that.  The name of a constraint is not quoted, so it has to be a name
that can stand without quotes; a name with a key in it makes two keys of one
(`readTable?_two_keys`).  And where a clause counts a column up, it declares a key as well.  A table
without a defect may have a counted column that is no key field, and then its statement has a key
that the table has not; this is the only way for a key to be wrong in that dialect
(`readTable?_declaresKeysOf_iff`).
-/

namespace SqlScribe.Statement

open Text Text.Reader

variable {d : Dialect} {t : Table}

/-! ### Keys of a creation -/

/-- The names of the columns that the creation of a table declares as its primary key, those with
a clause before those of a constraint. -/
def Creation.keyColumns (c : Creation) : List String :=
  ((c.columns.filter fun x => x.keyClauses ≠ []).map (·.name))
    ++ c.constraints.flatMap (·.columns)

/-- How often the creation of a table declares a primary key. -/
def Creation.keyCount (c : Creation) : Nat :=
  (c.columns.flatMap (·.keyClauses)).length + c.constraints.length

theorem constraints_ofTable (t : Table) :
  (CreateTable.ofTable t).created.constraints
    = if t.hasCompoundKey then [KeyConstraint.ofTable t] else []
  := by
  rw [CreateTable.constraints_created, CreateTable.ofTable]
  dsimp only
  split <;> rfl

/-- A table with a compound key has no key in a column. -/
theorem keyClauses_of_compound (h : t.hasCompoundKey = true) :
  ∀ x ∈ (CreateTable.ofTable t).created.columns, x.keyClauses = []
  := by
  rw [CreateTable.columns_created]
  intro x hx
  obtain ⟨f, -, rfl⟩ := List.mem_map.mp hx
  rw [keyClauses_ofField, h]
  simp

/-- A table without a compound key has its key in columns. -/
theorem keyClauses_of_not_compound (h : t.hasCompoundKey = false) :
  (CreateTable.ofTable t).created.columns.map (·.keyClauses)
    = t.fields.map fun f =>
      if DeclaresKey t.dialect f then [keyClauseOf t.dialect f] else []
  := by
  rw [CreateTable.columns_created, CreateTable.ofTable, List.map_map]
  apply List.map_congr_left
  intro f _
  rw [Function.comp_apply, keyClauses_ofField, h]
  simp

/-- The key columns of a table are its key fields if the key is compound, and the fields that
declare a key in a column if it is not. -/
theorem keyColumns_ofTable (t : Table) :
  (CreateTable.ofTable t).created.keyColumns
    = ((if t.hasCompoundKey then t.primaryKeyFields
        else t.fields.filter fun f => DeclaresKey t.dialect f).map (·.name))
  := by
  rw [Creation.keyColumns, constraints_ofTable]
  cases h : t.hasCompoundKey with
  | true =>
    have hnone : (CreateTable.ofTable t).created.columns.filter (fun x => x.keyClauses ≠ [])
        = [] := by
      rw [List.filter_eq_nil_iff]
      intro x hx
      simp [keyClauses_of_compound h x hx]
    rw [hnone]
    simp [KeyConstraint.ofTable]
  | false =>
    rw [CreateTable.columns_created, CreateTable.ofTable]
    simp only [Bool.false_eq_true, ↓reduceIte, List.flatMap_nil, List.append_nil, List.filter_map,
      List.map_map]
    have hfilter : t.fields.filter ((fun x : Column => decide (x.keyClauses ≠ []))
        ∘ fun f => Column.ofField t.dialect f (!t.hasCompoundKey))
        = t.fields.filter fun f => DeclaresKey t.dialect f := by
      apply List.filter_congr
      intro f _
      rw [Function.comp_apply, keyClauses_ofField, h]
      simp
    rw [hfilter]
    rfl

/-- A key is declared once for a compound key, and once for each field that declares a key in a
column if the key is not compound. -/
theorem keyCount_ofTable (t : Table) :
  (CreateTable.ofTable t).created.keyCount
    = if t.hasCompoundKey then 1
      else (t.fields.filter fun f => DeclaresKey t.dialect f).length
  := by
  rw [Creation.keyCount, constraints_ofTable]
  cases h : t.hasCompoundKey with
  | true =>
    have hnone : (CreateTable.ofTable t).created.columns.flatMap (·.keyClauses) = [] :=
      List.flatMap_eq_nil_iff.mpr (keyClauses_of_compound h)
    rw [hnone]
    rfl
  | false =>
    have hclauses : ∀ fs : List Field, ((fs.map fun f =>
        if DeclaresKey t.dialect f then [keyClauseOf t.dialect f] else []).flatten).length
        = (fs.filter fun f => DeclaresKey t.dialect f).length := by
      intro fs
      induction fs with
      | nil => rfl
      | cons f fs ih =>
        by_cases hf : DeclaresKey t.dialect f <;> simp [hf, ih]
    rw [List.flatMap_def, keyClauses_of_not_compound h, hclauses]
    simp

/-! ### One key in its place -/

/-- The creation of a table has the columns of the table with their types, and declares the
primary key of the table where it belongs: in the column of the field if the key is one field, and
in a constraint after all columns if it is several. -/
structure Creation.PlacesKey (c : Creation) (t : Table) : Prop where
  table : c.table = t.name
  columns : c.columns.map (fun x => (x.name, x.type))
    = t.fields.map fun f => (f.name, f.nativeText t.dialect)
  lines : c.lines = c.columns.map .column ++ c.constraints.map .key
  options : c.options = tableOptions? t.dialect
  none : t.primaryKeyFields = [] → (∀ x ∈ c.columns, x.keyClauses = []) ∧ c.constraints = []
  single : ∀ f, t.primaryKeyFields = [f] →
    c.columns.map (·.keyClauses)
        = t.fields.map (fun g => if g.primaryKey then [keyClauseOf t.dialect g] else [])
      ∧ c.constraints = []
  compound : 2 ≤ t.primaryKeyFields.length →
    (∀ x ∈ c.columns, x.keyClauses = [])
      ∧ ∃ name, c.constraints = [⟨name, t.primaryKeyFields.map (·.name)⟩]

/-- Where only key fields are counted up by a key clause, the fields that declare a key in a column
are the key fields. -/
theorem declaresKey_iff (h : t.dialect = .sqlite → ∀ f ∈ t.autoIncrementFields, f.primaryKey = true)
    {f : Field} (hf : f ∈ t.fields) :
  DeclaresKey t.dialect f ↔ f.primaryKey = true
  := by
  constructor
  · rintro (hkey | ⟨hd, hauto⟩)
    · exact hkey
    · exact h hd f (List.mem_filter.mpr ⟨hf, hauto⟩)
  · exact Or.inl

theorem placesKey_created
    (h : t.dialect = .sqlite → ∀ f ∈ t.autoIncrementFields, f.primaryKey = true) :
  (CreateTable.ofTable t).created.PlacesKey t
  := by
  have hclauses : t.hasCompoundKey = false →
      (CreateTable.ofTable t).created.columns.map (·.keyClauses)
        = t.fields.map fun g => if g.primaryKey then [keyClauseOf t.dialect g] else [] := by
    intro hcompound
    rw [keyClauses_of_not_compound hcompound]
    apply List.map_congr_left
    intro f hf
    simp only [declaresKey_iff h hf]
  have hconstraints : t.hasCompoundKey = false →
      (CreateTable.ofTable t).created.constraints = [] := by
    intro hcompound
    rw [constraints_ofTable, hcompound]
    rfl
  constructor
  case table => rfl
  case columns =>
    rw [CreateTable.columns_created, CreateTable.ofTable, List.map_map]
    rfl
  case lines =>
    rw [CreateTable.columns_created, CreateTable.constraints_created, ← Option.toList_map]
    rfl
  case options => rfl
  case none =>
    intro hnone
    have hcompound : t.hasCompoundKey = false := by rw [Table.hasCompoundKey, hnone]; rfl
    use fun x hx => ?_, hconstraints hcompound
    have hkeys : ∀ f ∈ t.fields, f.primaryKey = false := by
      simpa [Table.primaryKeyFields, List.filter_eq_nil_iff] using hnone
    have hx' := List.mem_map_of_mem (f := fun x : Column => x.keyClauses) hx
    rw [hclauses hcompound] at hx'
    obtain ⟨f, hf, hfx⟩ := List.mem_map.mp hx'
    simpa [hkeys f hf] using hfx.symm
  case single =>
    intro f hsingle
    have hcompound : t.hasCompoundKey = false := by rw [Table.hasCompoundKey, hsingle]; rfl
    exact ⟨hclauses hcompound, hconstraints hcompound⟩
  case compound =>
    intro hlength
    have hcompound : t.hasCompoundKey = true := by
      rw [Table.hasCompoundKey, decide_eq_true_iff]
      exact hlength
    use keyClauses_of_compound hcompound, (KeyConstraint.ofTable t).name
    rw [constraints_ofTable, hcompound]
    rfl

/-- Reading the statement that creates a table finds its primary key where it belongs.  In the
dialect that counts up by a key clause only key fields may be counted up, and where a compound key
has a name, the table has a name that can stand in it without quotes. -/
theorem readTable?_placesKey (t : Table)
    (hcounted : t.dialect = .sqlite → ∀ f ∈ t.autoIncrementFields, f.primaryKey = true)
    (hname : HasBareKey t) :
  ∃ c rest, readTable? t.dialect t.createSql = some (c, rest) ∧ c.PlacesKey t
  := by
  obtain ⟨rest, hread⟩ := readTable?_createSql hname
  exact ⟨_, rest, hread, placesKey_created hcounted⟩

/-- A compound key in a dialect where it has a name, with quotes and a key clause in the names of
columns. -/
theorem readTable?_placesKey_compound :
  let t : Table :=
    { name := "größe"
      fields := [{ name := "a\" PRIMARY KEY", type := .int, primaryKey := true, nullable := false },
        { name := "b", type := .text }, { name := ", c", type := .int, primaryKey := true }]
      dialect := .oracle }
  ∃ c rest, readTable? .oracle t.createSql = some (c, rest)
    ∧ c.constraints.map (·.columns) = [["a\" PRIMARY KEY", ", c"]]
  := by
  intro t
  obtain ⟨c, rest, hread, hplaces⟩ := readTable?_placesKey t (by decide) (by decide)
  obtain ⟨-, name, hconstraints⟩ := hplaces.compound (by decide)
  use c, rest, hread
  rw [hconstraints]
  rfl

/-- A name of a table that ends a key and begins another one: the statement has two keys. -/
theorem readTable?_two_keys :
  let t : Table :=
    { name := "T PRIMARY KEY (\"A\"),\n    CONSTRAINT C"
      fields := [{ name := "a", type := .int, primaryKey := true, nullable := false },
        { name := "b", type := .int, primaryKey := true, nullable := false }]
      dialect := .oracle }
  ∃ c rest, readTable? .oracle t.createSql = some (c, rest) ∧ t.defect? = none
    ∧ c.constraints.map (·.columns) = [["A"], ["a", "b"]]
  := by
  intro t
  let c : Creation :=
    { table := t.name
      lines := [.column ⟨"a", "NUMBER(10)", [.notNull]⟩, .column ⟨"b", "NUMBER(10)", [.notNull]⟩,
        .key ⟨some "PK_T", ["A"]⟩, .key ⟨some "C", ["a", "b"]⟩]
      options := none }
  have hcolumn : ∀ name, (Column.mk name "NUMBER(10)" [.notNull]).IsLegible := by
    intro name rest _
    exact lacks_of_separators (s := "NUMBER(10)") rest (by decide)
  have hlegible : c.IsLegible (spanning isBareCharacter) := by
    constructor
    · simp only [c, List.mem_cons, List.not_mem_nil, or_false]
      rintro l (rfl | rfl | rfl | rfl)
      · exact hcolumn "a"
      · exact hcolumn "b"
      · exact KeyConstraint.isLegible_of_isBareText (by decide) (by decide)
      · exact KeyConstraint.isLegible_of_isBareText (by decide) (by decide)
    · intro text htext
      contradiction
  have htext : t.createSql.toList = textOf .oracle c.fragments ++ [] := by
    rw [Table.createSql, write, String.toList_ofList]
    decide +kernel
  refine ⟨c, "", ?_, by decide, rfl⟩
  rw [readTable?, htext, Creation.reads_fragments hlegible [] trivial]
  rfl

/-! ### Keys and counted columns -/

/-- Every key field is among the key columns, and no other one, and a key is declared once at
most. -/
def Creation.DeclaresKeysOf (c : Creation) (t : Table) : Prop :=
  (∀ name, name ∈ c.keyColumns ↔ ∃ f ∈ t.primaryKeyFields, f.name = name) ∧ c.keyCount ≤ 1

/-- A table without a defect has its key fields as key columns, unless its key is declared in
columns and a counted column is not a key field: that column then declares a key as well. -/
theorem declaresKeysOf_created_iff (hd : t.dialect = .sqlite) (h : t.defect? = none) :
  (CreateTable.ofTable t).created.DeclaresKeysOf t
    ↔ t.hasCompoundKey = true ∨ ∀ f ∈ t.autoIncrementFields, f.primaryKey = true
  := by
  constructor
  · rintro ⟨hcolumns, -⟩
    by_cases hcompound : t.hasCompoundKey = true
    · exact Or.inl hcompound
    · right
      intro f hf
      obtain ⟨hf, hauto⟩ := List.mem_filter.mp hf
      have hmem : f.name ∈ (CreateTable.ofTable t).created.keyColumns := by
        rw [keyColumns_ofTable, if_neg hcompound]
        have hdeclares : DeclaresKey t.dialect f := Or.inr ⟨hd, hauto⟩
        exact List.mem_map_of_mem (List.mem_filter.mpr ⟨hf, decide_eq_true hdeclares⟩)
      -- No other field has the name, so the key field of that name is the counted one.
      obtain ⟨g, hg, hname⟩ := (hcolumns f.name).mp hmem
      obtain ⟨hg, hkey⟩ := List.mem_filter.mp hg
      rwa [← List.inj_on_of_nodup_map (Table.nodup_names h) hg hf hname]
  · intro hkeys
    have hfields : t.hasCompoundKey = false →
        (t.fields.filter fun f => DeclaresKey t.dialect f) = t.primaryKeyFields := by
      intro hcompound
      apply List.filter_congr
      intro f hf
      have hall := hkeys.resolve_left (by simp [hcompound])
      simp [declaresKey_iff (fun _ => hall) hf]
    constructor
    · intro name
      rw [keyColumns_ofTable]
      cases hcompound : t.hasCompoundKey with
      | true => exact List.mem_map
      | false =>
        rw [← hfields hcompound]
        exact List.mem_map
    · rw [keyCount_ofTable]
      cases hcompound : t.hasCompoundKey with
      | true => exact Nat.le_refl 1
      | false =>
        rw [hfields hcompound]
        simpa [Table.hasCompoundKey] using hcompound

/-- Reading the statement that creates a table without a defect finds a key declared once at most,
with the key fields as its columns, unless the key is declared in columns and a counted column is
not a key field. -/
theorem readTable?_declaresKeysOf_iff (t : Table) (hd : t.dialect = .sqlite)
    (h : t.defect? = none) :
  ∃ c rest, readTable? t.dialect t.createSql = some (c, rest)
    ∧ (c.DeclaresKeysOf t
      ↔ t.hasCompoundKey = true ∨ ∀ f ∈ t.autoIncrementFields, f.primaryKey = true)
  := by
  have hname : HasBareKey t := by
    intro horacle
    rw [hd] at horacle
    contradiction
  obtain ⟨rest, hread⟩ := readTable?_createSql hname
  exact ⟨_, rest, hread, declaresKeysOf_created_iff hd h⟩

/-- A counted column that is the key. -/
theorem readTable?_declaresKeysOf_counted :
  let t : Table :=
    { name := "t"
      fields := [{ name := "id", type := .int, primaryKey := true, nullable := false,
                   autoIncrement := true }, { name := "PRIMARY KEY", type := .text }]
      dialect := .sqlite }
  ∃ c rest, readTable? .sqlite t.createSql = some (c, rest) ∧ c.DeclaresKeysOf t
  := by
  intro t
  obtain ⟨c, rest, hread, hkeys⟩ := readTable?_declaresKeysOf_iff t rfl (by decide)
  exact ⟨c, rest, hread, hkeys.mpr (by decide)⟩

/-- A counted column of a table without a key: the statement has a key. -/
theorem readTable?_counted_without_key :
  let t : Table :=
    { name := "t"
      fields := [{ name := "id", type := .int, autoIncrement := true }]
      dialect := .sqlite }
  ∃ c rest, readTable? .sqlite t.createSql = some (c, rest) ∧ t.defect? = none
    ∧ t.primaryKeyFields = [] ∧ c.keyColumns = ["id"]
  := by
  intro t
  obtain ⟨rest, hread⟩ := readTable?_createSql (t := t) (by intro h; contradiction)
  refine ⟨_, rest, hread, by decide, rfl, ?_⟩
  rw [keyColumns_ofTable]
  rfl

end SqlScribe.Statement
