import SqlScribe.Proofs.Number.Numeral
import SqlScribe.Proofs.Statement.CreationReading
import SqlScribe.Sql.Lexeme

/-!
# CREATE TABLE statements are read back

What is read from the statements of a table is the creation of the table with its columns and
its key, whatever the names and the descriptions are (`run_creation_createSql`), and what is
left are the statements after it.  For this the types of the dialects have to be legible: none
of them goes on with what could be a clause.  `readTable?` reads names of constraints as far as
unquoted names go, and finds the table if the name of its constraint is such a name
(`readTable?_createSql`).
-/

namespace SqlScribe.Statement

open Text Text.Reader

variable {d : Dialect} {constraintName : Reader String}

/-! ### Types -/

/-- A piece of text without spaces, commas and line breaks does not end a type. -/
theorem lacks_of_separators {s : String} (rest : List Char)
    (h : ' ' ∉ s.toList ∧ ',' ∉ s.toList ∧ '\n' ∉ s.toList) :
  Lacks typeEnds s.toList rest
  := by
  have hends : ∀ stop ∈ typeEnds, stop.toList.head? ∈ [some ' ', some ',', some '\n'] := by
    decide
  obtain ⟨hspace, hcomma, hbreak⟩ := h
  apply lacks_of_forall
  intro stop hstop
  have hhead := hends stop hstop
  simp only [List.mem_cons, List.not_mem_nil, or_false] at hhead
  rcases hhead with hhead | hhead | hhead
  · rw [hhead]
    exact decide_eq_true hspace
  · rw [hhead]
    exact decide_eq_true hcomma
  · rw [hhead]
    exact decide_eq_true hbreak

theorem lacks_typeName (t : ColumnType) (rest : List Char) :
  Lacks typeEnds (d.typeName t).toList rest
  := by
  have hall : ∀ d ∈ Dialect.all, ∀ t ∈ ColumnType.all, d.typeName t = "DOUBLE PRECISION"
      ∨ ' ' ∉ (d.typeName t).toList ∧ ',' ∉ (d.typeName t).toList
        ∧ '\n' ∉ (d.typeName t).toList := by
    decide +kernel
  have hname := hall d (by cases d <;> decide) t (by cases t <;> decide)
  rcases hname with hname | hname
  · rw [hname]
    apply lacks_of_drop
    decide
  · exact lacks_of_separators rest hname

theorem lacks_natural (n : Nat) (rest : List Char) :
  Lacks typeEnds (toString n).toList rest
  := by
  have hdigits := (Number.isDigits_toString n).all
  apply lacks_of_separators
  constructor
  · intro hmem
    exact absurd (hdigits _ hmem) (by decide)
  constructor
  · intro hmem
    exact absurd (hdigits _ hmem) (by decide)
  · intro hmem
    exact absurd (hdigits _ hmem) (by decide)

/-- No type ends at the comma between two numbers. -/
theorem lacks_comma (n : Nat) (rest : List Char) :
  Lacks typeEnds ", ".toList ((toString n).toList ++ rest)
  := by
  have hspace : ∀ stop ∈ typeEnds, stop.toList[1]?.any (· ≠ ' ') = true := by
    decide
  have hdigit : ∀ stop ∈ typeEnds, stop.toList[1]?.any (!·.isDigit) = true := by
    decide
  obtain ⟨hne, hdigits⟩ := Number.isDigits_toString n
  cases hn : (toString n).toList with
  | nil => contradiction
  | cons c digits =>
    constructor
    · exact not_atStop_of_second _ hspace
    constructor
    · apply not_atStop_of_second
      intro stop hstop
      obtain ⟨e, he, hne⟩ := (Option.any_eq_true _ _).mp (hdigit stop hstop)
      rw [he, Option.any_some, decide_eq_true_iff]
      rintro rfl
      rw [hdigits e (by rw [hn]; exact List.mem_cons_self)] at hne
      contradiction
    · trivial

/-- Native types, with and without numbers, are legible. -/
theorem Column.isLegible_ofField (f : Field) (inlineKey : Bool) :
  (ofField d f inlineKey).IsLegible
  := by
  intro rest _
  have hopening : ∀ rest, Lacks typeEnds "(".toList rest := by
    intro rest
    exact lacks_of_separators rest (by decide)
  have hclosing : ∀ rest, Lacks typeEnds ")".toList rest := by
    intro rest
    exact lacks_of_separators rest (by decide)
  change Lacks typeEnds (f.nativeText d).toList rest
  unfold Field.nativeText
  dsimp only
  split
  · apply lacks_typeName
  split
  · simp only [String.toList_append, List.append_assoc]
    apply (lacks_typeName _ _).append
    apply (hopening _).append
    apply (lacks_natural _ _).append
    refine Lacks.append ?_ ((lacks_natural _ _).append (hclosing _))
    rw [List.append_assoc]
    apply lacks_comma
  · simp only [String.toList_append, List.append_assoc]
    apply (lacks_typeName _ _).append
    apply (hopening _).append
    exact (lacks_natural _ _).append (hclosing _)

/-! ### The creation of a table and what comes after it -/

namespace CreateTable

/-- The creation of a table, as columns and a key between the parentheses. -/
def created (c : CreateTable) : Creation where
  table := c.table
  lines := c.columns.map .column ++ (c.key.map .key).toList
  options := c.options

/-- The statements after the creation of a table, each after an empty line. -/
def supplementFragments (c : CreateTable) : List Fragment :=
  c.supplements.flatMap fun s => .code "\n\n" :: s.fragments

theorem fragments_eq_append (c : CreateTable) :
  c.fragments = c.created.fragments ++ c.supplementFragments
  := by
  have hlines : c.lines = c.created.lines.map TableLine.fragments := by
    cases h : c.key <;> simp [lines, created, h, TableLine.fragments]
  rw [fragments, hlines]
  cases h : c.options <;> simp [Creation.fragments, created, supplementFragments, h]

theorem columns_created (c : CreateTable) :
  c.created.columns = c.columns
  := by
  rw [Creation.columns, created, List.filterMap_append, List.filterMap_map]
  -- Each line of a column gives back its column, and a key adds none.
  cases c.key with
  | none => exact (List.append_nil _).trans List.filterMap_some
  | some k => exact (List.append_nil _).trans List.filterMap_some

theorem constraints_created (c : CreateTable) :
  c.created.constraints = c.key.toList
  := by
  cases h : c.key <;> simp [Creation.constraints, created, h]

end CreateTable

/-! ### Generated statements -/

variable {t : Table}

/-- The name of the primary key of a table, where it is a constraint with a name, can be read. -/
def HasLegibleKey (constraintName : Reader String) (t : Table) : Prop :=
  t.hasCompoundKey = true → ∀ name ∈ (KeyConstraint.ofTable t).name,
    Reads constraintName name name.toList (StartsWith " ")

theorem isLegible_created_ofTable (h : HasLegibleKey constraintName t) :
  (CreateTable.ofTable t).created.IsLegible constraintName
  := by
  constructor
  · intro line hline
    rcases List.mem_append.mp hline with hline | hline
    · obtain ⟨c, hc, rfl⟩ := List.mem_map.mp hline
      obtain ⟨f, -, rfl⟩ := List.mem_map.mp hc
      exact Column.isLegible_ofField f _
    · obtain ⟨k, hk, rfl⟩ := Option.map_eq_some_iff.mp (Option.mem_toList.mp hline)
      rw [CreateTable.ofTable, Option.ite_none_right_eq_some] at hk
      obtain ⟨hcompound, hk⟩ := hk
      cases hk
      constructor
      · intro hnil
        rw [KeyConstraint.ofTable, List.map_eq_nil_iff] at hnil
        rw [Table.hasCompoundKey, hnil] at hcompound
        contradiction
      · exact h hcompound
  · have hall : ∀ d ∈ Dialect.all, ∀ options ∈ tableOptions? d, ';' ∉ options.toList := by
      decide
    apply hall
    cases t.dialect <;> decide

/-- The creation of a table is read at the start of its statements, and leaves those after it. -/
theorem run_creation_createSql (h : HasLegibleKey constraintName t) :
  (creation t.dialect constraintName).run t.createSql.toList
    = some ((CreateTable.ofTable t).created,
      textOf t.dialect (CreateTable.ofTable t).supplementFragments)
  := by
  have hread := Creation.reads_fragments (d := t.dialect) (isLegible_created_ofTable h)
  rw [Table.createSql, write, String.toList_ofList, ← textOf, CreateTable.fragments_eq_append,
    textOf_append]
  exact hread _ trivial

/-! ### Unquoted names -/

/-- Whether a character can stand in a name that is not quoted. -/
def isBareCharacter (c : Char) : Bool :=
  Sql.isWordCharacter c || c == '$' || c == '#' || (0x80 ≤ c.toNat && !isBlank c)

/-- Reads the statement that creates a table, and gives back what it says and the text after
it. -/
def readTable? (d : Dialect) (sql : String) : Option (Creation × String) :=
  ((creation d (spanning isBareCharacter)).run sql.toList).map fun (c, rest) =>
    (c, String.ofList rest)

/-- All characters of the text can stand in a name that is not quoted. -/
def IsBareText (s : String) : Prop :=
  ∀ c ∈ s.toList, isBareCharacter c = true

instance (s : String) : Decidable (IsBareText s) :=
  decidable_of_iff (s.toList.all isBareCharacter = true) List.all_eq_true

/-- A name that can stand without quotes is read before a space. -/
theorem reads_bareText {name : String} (h : IsBareText name) :
  Reads (spanning isBareCharacter) name name.toList (StartsWith " ")
  := by
  apply (reads_spanning h).mono
  rintro rest ⟨more, rfl⟩ c hc
  cases hc
  decide

/-- A key whose name can stand without quotes is legible. -/
theorem KeyConstraint.isLegible_of_isBareText {name : String} {columns : List String}
    (h : IsBareText name) (hne : columns ≠ []) :
  (KeyConstraint.mk (some name) columns).IsLegible (spanning isBareCharacter)
  := by
  constructor
  · exact hne
  · rintro _ ⟨⟩
    exact reads_bareText h

/-- Where the primary key of a table is a constraint with a name, the name can stand without
quotes. -/
def HasBareKey (t : Table) : Prop :=
  t.dialect = .oracle → t.hasCompoundKey = true → IsBareText (upperCase t.name)

instance (t : Table) : Decidable (HasBareKey t) :=
  inferInstanceAs (Decidable (_ → _ → _))

theorem hasLegibleKey_of_hasBareKey (h : HasBareKey t) :
  HasLegibleKey (spanning isBareCharacter) t
  := by
  intro hcompound name hname
  have hbare : IsBareText name := by
    cases hd : t.dialect with
    | oracle =>
      simp only [KeyConstraint.ofTable, hd, Option.mem_def, Option.some.injEq] at hname
      subst hname
      have hstart : IsBareText "PK_" := by decide
      intro c hc
      rw [String.toList_append] at hc
      rcases List.mem_append.mp hc with hc | hc
      · exact hstart c hc
      · exact h hd hcompound c hc
    | _ => simp [KeyConstraint.ofTable, hd] at hname
  exact reads_bareText hbare

/-- What is read from the creation of a table is the table with its lines. -/
theorem readTable?_createSql (h : HasBareKey t) :
  ∃ rest, readTable? t.dialect t.createSql = some ((CreateTable.ofTable t).created, rest)
  := by
  rw [readTable?, run_creation_createSql (hasLegibleKey_of_hasBareKey h)]
  exact ⟨_, rfl⟩

end SqlScribe.Statement
