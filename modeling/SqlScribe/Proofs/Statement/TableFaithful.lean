import SqlScribe.Proofs.Statement.KeyPlacement

/-!
# Statements tell tables apart

Tables with the same statements agree in all that the statements are to say: the name of the table,
the columns in their order with names, types and clauses, the primary key, and the descriptions
where there are any (`createSql_faithful`).

The statements are read back.  The name of the table comes first, and with it the name of a
constraint is known, so the creation of the table is read whatever the name is; what is read is then
the same for both tables, and so is what is left (`created_eq_of_createSql_eq`).  Descriptions are
clauses in one dialect and statements of their own in another, which stand in what is left; fields
without a description have no such statement, but as fields have different names, the
descriptions that there are belong to the same fields.
-/

namespace SqlScribe.Statement

open Text Text.Reader

variable {d : Dialect} {t u : Table}

/-! ### The creation of the table -/

/-- Reads the name of a table that is created. -/
def tableName (d : Dialect) : Reader String := do
  expect "CREATE TABLE "
  quoted d.identifierStyle

theorem reads_tableName (name : String) :
  Reads (tableName d) name (textOf d [.code "CREATE TABLE ", .identifier name]) (StartsWith " (\n")
  := by
  rw [textOf_code_cons]
  apply (reads_expect "CREATE TABLE ").bind _ (fun _ _ => trivial)
  apply (reads_identifier name).mono
  rintro rest ⟨more, rfl⟩
  exact notBefore_identifierMark (by decide) _

/-- The statements that create a table begin with its name. -/
theorem createSql_begins (t : Table) :
  ∃ more, t.createSql.toList
    = textOf t.dialect [.code "CREATE TABLE ", .identifier t.name] ++ (" (\n".toList ++ more)
  := by
  let c := CreateTable.ofTable t
  have hfragments : ∃ more, c.fragments
      = [.code "CREATE TABLE ", .identifier t.name] ++ .code " (\n" :: more := ⟨_, rfl⟩
  obtain ⟨more, hmore⟩ := hfragments
  use textOf t.dialect more
  rw [Table.createSql, write, String.toList_ofList, ← textOf, hmore, textOf_append]
  rfl

/-- Tables with the same statements have the same name. -/
theorem name_eq_of_createSql_eq (hd : t.dialect = u.dialect) (h : t.createSql = u.createSql) :
  t.name = u.name
  := by
  obtain ⟨more, ht⟩ := createSql_begins t
  obtain ⟨more', hu⟩ := createSql_begins u
  rw [hd] at ht
  have htexts := ht.symm.trans ((congrArg String.toList h).trans hu)
  have hreads := (reads_tableName (d := u.dialect) t.name).unique (reads_tableName u.name)
    (List.prefix_append _ _) (List.prefix_append _ _) htexts
  exact hreads.1

/-- The name of the primary key of a table is read by a reader of just that name. -/
theorem hasLegibleKey_exactly (t : Table) :
  HasLegibleKey (exactly ("PK_" ++ upperCase t.name)) t
  := by
  intro _ name hname
  have hkey : name = "PK_" ++ upperCase t.name := by
    cases hd : t.dialect <;> simp_all [KeyConstraint.ofTable]
  rw [hkey]
  exact (reads_exactly _).mono fun _ _ => trivial

/-- Tables with the same statements have the same creation, and the same statements after it. -/
theorem created_eq_of_createSql_eq (hd : t.dialect = u.dialect) (h : t.createSql = u.createSql) :
  (CreateTable.ofTable t).created = (CreateTable.ofTable u).created
    ∧ textOf t.dialect (CreateTable.ofTable t).supplementFragments
      = textOf u.dialect (CreateTable.ofTable u).supplementFragments
  := by
  have hname := name_eq_of_createSql_eq hd h
  have ht := run_creation_createSql (hasLegibleKey_exactly t)
  have hu := run_creation_createSql (hasLegibleKey_exactly u)
  rw [← hd, ← h, ← hname, ht] at hu
  simpa [hd] using hu

/-! ### Columns -/

/-- The columns of tables with the same creation are the same. -/
theorem columns_eq_of_created_eq
    (h : (CreateTable.ofTable t).created = (CreateTable.ofTable u).created) :
  (CreateTable.ofTable t).columns = (CreateTable.ofTable u).columns
  := by
  rw [← CreateTable.columns_created, h, CreateTable.columns_created]

/-- What a column says of its field: the name and the type, whether nulls are rejected, and whether
no value may come twice in a column that is not a key. -/
def Column.facts (c : Column) : String × String × Bool × Bool :=
  (c.name, c.type, decide (.notNull ∈ c.clauses), decide (.unique ∈ c.clauses))

theorem facts_ofField (f : Field) (inlineKey : Bool) :
  (Column.ofField d f inlineKey).facts
    = (f.name, f.nativeText d, f.isNotNull, f.unique && !f.primaryKey)
  := by
  simp only [Column.facts, Column.ofField, notNull_mem_clausesOf, unique_mem_clausesOf]
  cases f.isNotNull <;> cases f.unique <;> cases f.primaryKey <;> rfl

theorem map_facts_ofTable (t : Table) :
  (CreateTable.ofTable t).columns.map (·.facts)
    = t.fields.map fun f => (f.name, f.nativeText t.dialect, f.isNotNull, f.unique && !f.primaryKey)
  := by
  rw [CreateTable.ofTable, List.map_map]
  apply List.map_congr_left
  intro f _
  apply facts_ofField

/-- Where a key needs a clause of its own, the key columns are the key fields. -/
theorem keyColumns_eq_primaryKeyFields (hd : t.dialect ≠ .sqlite) :
  (CreateTable.ofTable t).created.keyColumns = t.primaryKeyFields.map (·.name)
  := by
  have hfilter : (t.fields.filter fun f => DeclaresKey t.dialect f) = t.primaryKeyFields := by
    apply List.filter_congr
    intro f hf
    simp [declaresKey_iff (fun h => absurd h hd) hf]
  rw [keyColumns_ofTable, hfilter, ite_self]

/-! ### Descriptions -/

/-- The descriptions that a column has as clauses. -/
def Column.HasComment (c : Column) (text : String) : Prop :=
  .comment text ∈ c.clauses

/-- Where descriptions are clauses, they are those of the fields. -/
theorem map_hasComment_ofTable (hd : t.dialect = .mySql) :
  (CreateTable.ofTable t).columns.map (·.HasComment)
    = (t.fields.map (·.comment?)).map fun comment text => comment = some text
  := by
  rw [CreateTable.ofTable, List.map_map, List.map_map]
  apply List.map_congr_left
  intro f _
  funext text
  rw [Function.comp_apply, Column.HasComment, Column.ofField, hd, comment_mem_clausesOf]
  simp

theorem comments_eq_of_columns_eq (ht : t.dialect = .mySql) (hu : u.dialect = .mySql)
    (h : (CreateTable.ofTable t).columns = (CreateTable.ofTable u).columns) :
  t.fields.map (·.comment?) = u.fields.map (·.comment?)
  := by
  have hcomments := congrArg (List.map (·.HasComment)) h
  rw [map_hasComment_ofTable ht, map_hasComment_ofTable hu] at hcomments
  apply List.map_injective_iff.mpr _ hcomments
  intro a b hab
  apply Option.ext
  intro text
  exact iff_of_eq (congrFun hab text)

/-- Reads the description of a column as a statement. -/
def columnComment (d : Dialect) : Reader (String × String) := do
  expect "COMMENT ON COLUMN "
  let _ ← quoted d.identifierStyle
  expect "."
  let column ← quoted d.identifierStyle
  expect " IS "
  let text ← quoted d.literalStyle
  expect ";"
  return (column, text)

/-- Reads the descriptions of columns after a table. -/
def columnComments (d : Dialect) : Reader (List (String × String)) :=
  (do
    expect "\n\n"
    separated (columnComment d) "\n")
  <|> (do return [])

/-- The description of a column as a statement. -/
def commentFragments (table : String) (description : String × String) : List Fragment :=
  [.code "COMMENT ON COLUMN ", .identifier table, .code ".", .identifier description.1,
    .code " IS ", .literal description.2, .code ";"]

theorem reads_columnComment (table : String) (description : String × String) :
  Reads (columnComment d) description (textOf d (commentFragments table description)) Anything
  := by
  have htext : textOf d (commentFragments table description)
      = "COMMENT ON COLUMN ".toList ++ (textOf d [.identifier table] ++ (".".toList
        ++ (textOf d [.identifier description.1] ++ (" IS ".toList
          ++ (d.literalStyle.encode description.2.toList ++ ";".toList))))) := by
    simp [commentFragments, textOf, Fragment.write]
  rw [htext]
  apply (reads_expect "COMMENT ON COLUMN ").bind _ (fun _ _ => trivial)
  apply (reads_identifier table).bind
  · apply (reads_expect ".").bind _ (fun _ _ => trivial)
    apply (reads_identifier description.1).bind
    · apply (reads_expect " IS ").bind _ (fun _ _ => trivial)
      apply (reads_quoted d.literalStyle description.2).bind ((reads_expect ";").bind_pure _)
      rintro rest _ e ⟨⟩
      cases d <;> decide
    · intro rest _
      exact notBefore_identifierMark (by decide) _
  · intro rest _
    exact notBefore_identifierMark (by decide) _

/-- Where descriptions are statements, they are read back after the table. -/
theorem reads_columnComments (hd : t.dialect = .postgreSql) :
  Reads (columnComments d) (descriptionsOf t)
    (textOf d (CreateTable.ofTable t).supplementFragments) (· = [])
  := by
  by_cases hne : descriptionsOf t = []
  · have hnone : (CreateTable.ofTable t).supplementFragments = [] := by
      simp [CreateTable.supplementFragments, CreateTable.ofTable, supplementsOf, hd, hne]
    rw [hnone, hne]
    rintro rest rfl
    rfl
  · have hsome : (CreateTable.ofTable t).supplementFragments
        = .code "\n\n" :: separatedBy "\n" ((descriptionsOf t).map (commentFragments t.name)) := by
      simp [CreateTable.supplementFragments, CreateTable.ofTable, supplementsOf, hd, hne,
        Supplement.fragments]
      rfl
    have hread : Reads (separated (columnComment d) "\n") ((descriptionsOf t).map id)
        ("\n".toList.intercalate
          ((descriptionsOf t).map fun p => textOf d (commentFragments t.name p))) (· = []) := by
      apply reads_separated hne (by decide) (fun p _ => reads_columnComment t.name p)
        (fun _ => trivial)
      rintro rest rfl
      exact ⟨trivial, by decide⟩
    rw [List.map_id] at hread
    rw [hsome, textOf_code_cons, textOf_separatedBy, List.map_map]
    apply Reads.orElse_left
    exact (reads_expect "\n\n").bind hread fun _ _ => trivial

/-- Each field of fields with different names has the description that is found by its name. -/
theorem lookup_descriptions {fields : List Field} (h : (fields.map (·.name)).Nodup) {f : Field}
    (hf : f ∈ fields) :
  (fields.filterMap fun f => f.comment?.map fun text => (f.name, text)).lookup f.name = f.comment?
  := by
  induction fields with
  | nil => contradiction
  | cons g rest ih =>
    rw [List.map_cons, List.nodup_cons] at h
    obtain ⟨hg, hnodup⟩ := h
    rcases List.mem_cons.mp hf with rfl | hf
    · cases hcomment : f.comment? with
      | some text => simp [hcomment]
      | none =>
        rw [List.filterMap_cons, hcomment, Option.map_none, List.lookup_eq_none_iff]
        rintro ⟨name, text⟩ hp
        obtain ⟨e, he, hename⟩ := List.mem_filterMap.mp hp
        obtain ⟨_, -, hpair⟩ := Option.map_eq_some_iff.mp hename
        cases hpair
        rw [bne_iff_ne]
        rintro hname
        exact hg (List.mem_map.mpr ⟨e, he, hname.symm⟩)
    · have hne : (f.name == g.name) = false := by
        rw [beq_eq_false_iff_ne]
        intro hname
        exact hg (List.mem_map.mpr ⟨f, hf, hname⟩)
      rw [← ih hnodup hf]
      cases hcomment : g.comment? <;> simp [List.lookup_cons, hcomment, hne]

theorem comments_eq_of_supplements_eq (ht : t.dialect = .postgreSql) (hu : u.dialect = .postgreSql)
    (htn : (t.fields.map (·.name)).Nodup) (hnames : t.fields.map (·.name) = u.fields.map (·.name))
    (h : textOf .postgreSql (CreateTable.ofTable t).supplementFragments
      = textOf .postgreSql (CreateTable.ofTable u).supplementFragments) :
  t.fields.map (·.comment?) = u.fields.map (·.comment?)
  := by
  have hdescriptions : descriptionsOf t = descriptionsOf u := by
    have hread := reads_columnComments (d := .postgreSql) ht [] rfl
    have hread' := reads_columnComments (d := .postgreSql) hu [] rfl
    rw [h, hread'] at hread
    simpa using hread.symm
  have hlookup : ∀ {t : Table}, (t.fields.map (·.name)).Nodup →
      t.fields.map (·.comment?) = (t.fields.map (·.name)).map ((descriptionsOf t).lookup ·) := by
    intro t hnodup
    rw [List.map_map]
    apply List.map_congr_left
    intro f hf
    exact (lookup_descriptions hnodup hf).symm
  have hun : (u.fields.map (·.name)).Nodup := hnames ▸ htn
  calc t.fields.map (·.comment?)
    _ = (t.fields.map (·.name)).map ((descriptionsOf t).lookup ·) := hlookup htn
    _ = (u.fields.map (·.name)).map ((descriptionsOf u).lookup ·) := by
      rw [hnames, hdescriptions]
    _ = u.fields.map (·.comment?) := (hlookup hun).symm

/-! ### Tables -/

/-- Tables with the same statements have the same name and the same columns in the same order: with
the same names and types, and the same answers to whether nulls are rejected and whether values
that are no keys may come twice.  They have the same key fields in the same order, except where a
counted column declares a key, and the same descriptions, where these are written. -/
theorem createSql_faithful (t u : Table) (hd : t.dialect = u.dialect) (ht : t.defect? = none)
    (h : t.createSql = u.createSql) :
  t.name = u.name
    ∧ t.fields.map
        (fun f => (f.name, f.nativeText t.dialect, f.isNotNull, f.unique && !f.primaryKey))
      = u.fields.map
        (fun f => (f.name, f.nativeText u.dialect, f.isNotNull, f.unique && !f.primaryKey))
    ∧ (t.dialect ≠ .sqlite →
      t.primaryKeyFields.map (·.name) = u.primaryKeyFields.map (·.name))
    ∧ (t.dialect = .mySql ∨ t.dialect = .postgreSql →
      t.fields.map (·.comment?) = u.fields.map (·.comment?))
  := by
  obtain ⟨hcreated, hsupplements⟩ := created_eq_of_createSql_eq hd h
  have hcolumns := columns_eq_of_created_eq hcreated
  have hfacts := congrArg (List.map (·.facts)) hcolumns
  rw [map_facts_ofTable, map_facts_ofTable] at hfacts
  have hnames : t.fields.map (·.name) = u.fields.map (·.name) := by
    simpa [Function.comp_def] using congrArg (List.map Prod.fst) hfacts
  use name_eq_of_createSql_eq hd h, hfacts
  constructor
  · intro hne
    rw [← keyColumns_eq_primaryKeyFields hne, hcreated,
      keyColumns_eq_primaryKeyFields (hd ▸ hne)]
  · rintro (hdialect | hdialect)
    · exact comments_eq_of_columns_eq hdialect (hd ▸ hdialect) hcolumns
    · have hdialect' : u.dialect = .postgreSql := hd ▸ hdialect
      rw [hdialect, hdialect'] at hsupplements
      exact comments_eq_of_supplements_eq hdialect hdialect' (Table.nodup_names ht) hnames
        hsupplements

/-- Two tables that differ in what is not written: the length of a type without one, a type that
is written like another one, and whether a key is marked to be unique. -/
theorem createSql_faithful_lengths :
  let t : Table :=
    { name := "a\" (\"b"
      fields := [{ name := "x\" INTEGER", type := .int, length := some 5, primaryKey := true
                   nullable := false, unique := true },
        { name := "y", type := .enum, description := some "it's; --" }]
      dialect := .postgreSql }
  let u : Table :=
    { name := "a\" (\"b"
      fields := [{ name := "x\" INTEGER", type := .int, primaryKey := true, nullable := false },
        { name := "y", type := .varchar, description := some "it's; --" }]
      dialect := .postgreSql }
  t ≠ u ∧ t.createSql = u.createSql
    ∧ t.primaryKeyFields.map (·.name) = u.primaryKeyFields.map (·.name)
    ∧ t.fields.map (·.comment?) = u.fields.map (·.comment?)
  := by
  intro t u
  have hfragments : (CreateTable.ofTable t).fragments = (CreateTable.ofTable u).fragments := by
    decide +kernel
  have h : t.createSql = u.createSql := congrArg (write .postgreSql) hfragments
  obtain ⟨-, -, hkeys, hcomments⟩ := createSql_faithful t u rfl (by decide) h
  exact ⟨by decide, h, hkeys (by decide), hcomments (Or.inr rfl)⟩

end SqlScribe.Statement
