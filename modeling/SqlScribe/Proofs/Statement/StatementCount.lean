import SqlScribe.Proofs.Statement.CleanTable
import SqlScribe.Schema.Defect

/-!
# How many statements create a table

The semicolons that end the statements of a table, where columns are counted up by sequences: one
for the table, one for each sequence and two for each trigger.  The only other ones that are read
as semicolons are those in names that are not quoted (`tokenize_createSql_semicolons`), however
many there are in other names.

Code has as many semicolons as tokens as it has as characters, and quoted names have none, so the
semicolons are counted in the fragments of a statement (`semicolonsOf`).  Names without quotes have
to be code by themselves (`IsCode`); otherwise quotes and comments in them take up the text that
follows.
-/

namespace SqlScribe.Statement

open Sql Text Number CodeState

variable {d : Dialect} {t : Table}

/-! ### Semicolons of fragments -/

@[simp]
theorem semicolons_identifier (name : String) :
  (Fragment.identifier name).semicolons = 0
  := rfl

theorem semicolonsOf_append (a b : List Fragment) :
  semicolonsOf (a ++ b) = semicolonsOf a + semicolonsOf b
  := by
  induction a with
  | nil => rw [List.nil_append, semicolonsOf, Nat.zero_add]
  | cons f a ih => rw [List.cons_append, semicolonsOf, semicolonsOf, ih, Nat.add_assoc]

/-- Parts without semicolons have none together. -/
theorem semicolonsOf_flatMap_eq_zero {α : Type} {xs : List α} {parts : α → List Fragment}
    (h : ∀ x ∈ xs, semicolonsOf (parts x) = 0) :
  semicolonsOf (xs.flatMap parts) = 0
  := by
  induction xs with
  | nil => rfl
  | cons x xs ih =>
    rw [List.flatMap_cons, semicolonsOf_append, h x List.mem_cons_self, Nat.zero_add]
    apply ih
    intro y hy
    exact h y (List.mem_cons_of_mem x hy)

/-- Separators without semicolons add none. -/
theorem semicolonsOf_separatedBy {separator : String} (h : (Fragment.code separator).semicolons = 0)
    (parts : List (List Fragment)) :
  semicolonsOf (separatedBy separator parts) = semicolonsOf parts.flatten
  := by
  induction parts with
  | nil => rfl
  | cons part parts ih =>
    cases parts with
    | nil => rw [separatedBy, List.intercalate_singleton, List.flatten_singleton]
    | cons next parts =>
      have hseparator : semicolonsOf [.code separator] = 0 := h
      rw [separatedBy, List.intercalate_cons_cons, ← separatedBy, semicolonsOf_append,
        semicolonsOf_append, hseparator, Nat.add_zero, ih, ← semicolonsOf_append]
      rfl

/-! ### Columns and keys -/

theorem semicolon_not_mem_nativeText (f : Field) :
  ';' ∉ (f.nativeText d).toList
  := by
  have hall : ∀ d ∈ Dialect.all, ∀ t ∈ ColumnType.all, ';' ∉ (d.typeName t).toList := by
    decide +kernel
  have hname : ';' ∉ (d.typeName f.type).toList := by
    apply hall
    · cases d <;> decide
    · cases f.type <;> decide
  have hnatural : ∀ n : Nat, ';' ∉ (toString n).toList := by
    intro n
    exact semicolon_not_mem_digits (isDigits_toString n).all
  unfold Field.nativeText
  dsimp only
  split
  · exact hname
  split
  · simp only [String.toList_append, List.mem_append, hname, hnatural]
    decide
  · simp only [String.toList_append, List.mem_append, hname, hnatural]
    decide

/-- A column has no semicolons outside of quotes. -/
theorem semicolonsOf_column (f : Field) (inlineKey : Bool) :
  semicolonsOf (Column.ofField d f inlineKey).fragments = 0
  := by
  have hclauses : semicolonsOf ((Column.ofField d f inlineKey).clauses.flatMap
      fun c => .code " " :: c.fragments) = 0 := by
    apply semicolonsOf_flatMap_eq_zero
    intro c _
    cases c <;> rfl
  have htype : (Fragment.code (Column.ofField d f inlineKey).type).semicolons = 0 :=
    List.count_eq_zero.mpr (semicolon_not_mem_nativeText f)
  have hspace : (Fragment.code " ").semicolons = 0 := by decide
  rw [Column.fragments, semicolonsOf_append, hclauses]
  simp only [semicolonsOf, semicolons_identifier, hspace, htype]

theorem semicolonsOf_columnList (names : List String) :
  semicolonsOf (columnList names) = 0
  := by
  rw [columnList, semicolonsOf_separatedBy (by decide), ← List.flatMap_def]
  exact semicolonsOf_flatMap_eq_zero fun _ _ => rfl

/-- The semicolons in some names. -/
def semicolonsIn (names : List String) : Nat :=
  (names.flatMap (·.toList)).count ';'

theorem semicolonsIn_eq_zero_iff {names : List String} :
  semicolonsIn names = 0 ↔ ∀ name ∈ names, ';' ∉ name.toList
  := by
  simp [semicolonsIn, List.count_eq_zero]

theorem semicolonsIn_append (a b : List String) :
  semicolonsIn (a ++ b) = semicolonsIn a + semicolonsIn b
  := by
  simp [semicolonsIn]

theorem semicolonsIn_singleton (name : String) :
  semicolonsIn [name] = (Fragment.code name).semicolons
  := by
  simp [semicolonsIn, Fragment.semicolons]

/-- A key has no semicolons outside of quotes but those of its name. -/
theorem semicolonsOf_keyConstraint (k : KeyConstraint) :
  semicolonsOf k.fragments = semicolonsIn k.name.toList
  := by
  have hfixed : (Fragment.code "CONSTRAINT ").semicolons = 0
      ∧ (Fragment.code " ").semicolons = 0 := by
    decide
  have hopening : semicolonsOf [.code "PRIMARY KEY ("] = 0 := by decide
  have hclosing : semicolonsOf [.code ")"] = 0 := by decide
  rw [KeyConstraint.fragments, semicolonsOf_append, semicolonsOf_append, semicolonsOf_append,
    semicolonsOf_columnList, hopening, hclosing]
  cases k.name with
  | none => rfl
  | some name =>
    rw [Option.toList_some, semicolonsIn_singleton]
    simp only [semicolonsOf, hfixed, Nat.zero_add, Nat.add_zero]

theorem semicolonsOf_sequence (name : String) :
  semicolonsOf (Supplement.sequence name).fragments
    = 1 + semicolonsIn (Supplement.sequence name).unquotedNames
  := by
  have hstart : (Fragment.code "CREATE SEQUENCE ").semicolons = 0 := by decide
  have hend : (Fragment.code " START WITH 1 INCREMENT BY 1;").semicolons = 1 := by decide
  rw [Supplement.unquotedNames, semicolonsIn_singleton]
  simp only [Supplement.fragments, semicolonsOf, hstart, hend]
  omega

theorem semicolonsOf_trigger (name table counter column : String) :
  semicolonsOf (Supplement.trigger name table counter column).fragments
    = 2 + semicolonsIn (Supplement.trigger name table counter column).unquotedNames
  := by
  have hstart : (Fragment.code "CREATE OR REPLACE TRIGGER ").semicolons = 0 := by decide
  have htable : (Fragment.code "\nBEFORE INSERT ON ").semicolons = 0 := by decide
  have hbody : (Fragment.code "\nFOR EACH ROW\nBEGIN\n    SELECT ").semicolons = 0 := by decide
  have hcolumn : (Fragment.code ".NEXTVAL INTO :NEW.").semicolons = 0 := by decide
  have hend : (Fragment.code " FROM DUAL;\nEND;").semicolons = 2 := by decide
  have hnames : semicolonsIn [name, counter]
      = (Fragment.code name).semicolons + (Fragment.code counter).semicolons := by
    rw [← semicolonsIn_singleton, ← semicolonsIn_singleton, ← semicolonsIn_append]
    rfl
  rw [Supplement.unquotedNames, hnames]
  simp only [Supplement.fragments, semicolonsOf, semicolons_identifier, hstart, htable, hbody,
    hcolumn, hend]
  omega

/-! ### Tables -/

theorem semicolonsOf_lines (t : Table) :
  semicolonsOf (separatedBy ",\n" (CreateTable.ofTable t).lines)
    = semicolonsIn ((CreateTable.ofTable t).key.bind (·.name)).toList
  := by
  have hindent : (Fragment.code "    ").semicolons = 0 := by decide
  have hcolumns : semicolonsOf (((CreateTable.ofTable t).columns.map (·.fragments)).flatMap
      fun line => .code "    " :: line) = 0 := by
    apply semicolonsOf_flatMap_eq_zero
    intro line hline
    obtain ⟨x, hx, rfl⟩ := List.mem_map.mp hline
    obtain ⟨f, -, rfl⟩ := List.mem_map.mp hx
    rw [semicolonsOf, hindent, semicolonsOf_column]
  rw [semicolonsOf_separatedBy (by decide), CreateTable.lines, ← List.flatMap_def,
    List.flatMap_append, semicolonsOf_append, hcolumns, Nat.zero_add]
  cases (CreateTable.ofTable t).key with
  | none => rfl
  | some k =>
    rw [Option.map_some, Option.toList_some, List.flatMap_singleton, semicolonsOf, hindent,
      semicolonsOf_keyConstraint, Nat.zero_add]
    rfl

/-- A field that is counted up has three semicolons in its sequence and its trigger. -/
theorem semicolonsOf_supplements (hd : t.dialect = .oracle) :
  semicolonsOf ((supplementsOf t).flatMap fun s => .code "\n\n" :: s.fragments)
    = 3 * t.autoIncrementFields.length + semicolonsIn ((supplementsOf t).flatMap (·.unquotedNames))
  := by
  have hline : (Fragment.code "\n\n").semicolons = 0 := by decide
  rw [supplementsOf, hd]
  dsimp only
  induction t.autoIncrementFields with
  | nil => rfl
  | cons f fields ih =>
    simp only [List.flatMap_cons, List.flatMap_append, List.flatMap_nil, List.append_nil,
      semicolonsOf_append, semicolonsOf, semicolonsOf_sequence, semicolonsOf_trigger,
      semicolonsIn_append, ih, List.length_cons, hline]
    omega

/-- The statements of a table end in semicolons, three for each field that is counted up besides
the one of the table, and there are no other semicolons outside of quotes but those of names. -/
theorem semicolonsOf_createTable (hd : t.dialect = .oracle) :
  semicolonsOf (CreateTable.ofTable t).fragments
    = 1 + 3 * t.autoIncrementFields.length + semicolonsIn (CreateTable.ofTable t).unquotedNames
  := by
  have hsupplements := semicolonsOf_supplements hd
  have hlines := semicolonsOf_lines t
  have hstart : (Fragment.code "CREATE TABLE ").semicolons = 0
      ∧ (Fragment.code " (\n").semicolons = 0 ∧ (Fragment.code "\n)").semicolons = 0
      ∧ (Fragment.code ";").semicolons = 1 := by
    decide
  have hoptions : (CreateTable.ofTable t).options = none := by
    rw [CreateTable.ofTable, hd]
    rfl
  rw [CreateTable.unquotedNames, semicolonsIn_append, ← hlines, CreateTable.fragments, hoptions]
  change semicolonsOf (_ ++ (supplementsOf t).flatMap _)
    = _ + (_ + semicolonsIn ((supplementsOf t).flatMap (·.unquotedNames)))
  simp only [semicolonsOf_append, hsupplements, semicolonsOf, semicolons_identifier, hstart]
  omega

/-! ### Names that are code -/

/-- The text can stand in a statement without quotes: it is code of its own, with no quotes and
comments in it and no number that breaks off. -/
def IsCode (s : String) : Prop :=
  (fresh.run? s.toList).any isComplete = true

instance (s : String) : Decidable (IsCode s) :=
  inferInstanceAs (Decidable (_ = true))

theorem step?_of_isOpen {q : CodeState} (hq : q.isOpen = true) (c : Char) :
  q.step? c = fresh.step? c
  := by
  cases q with
  | blank =>
    cases hb : isBlank c <;> simp [step?, endsBefore, extend?, start?, hb]
  | symbol => rfl
  | _ => contradiction

theorem leads_of_isCode {s : String} (h : IsCode s) :
  Leads d isOpen [.code s] isComplete
  := by
  apply leads_code_iff.mpr
  intro q hq
  unfold IsCode at h
  cases hs : s.toList with
  | nil => exact ⟨q, rfl, isComplete_of_isOpen q q.mem_all hq⟩
  | cons c s =>
    rw [hs] at h
    have hrun : q.run? (c :: s) = fresh.run? (c :: s) := by
      rw [run?, run?, List.foldlM_cons, List.foldlM_cons, step?_of_isOpen hq]
    rw [hrun]
    exact (Option.any_eq_true _ _).mp h

/-- The statements of a table whose unquoted names are code have no errors, and the semicolons that
end them besides those in the names. -/
theorem tokenize_createSql_of_isCode (hd : t.dialect = .oracle) (hname : '\\' ∉ t.name.toList)
    (hfields : ∀ f ∈ t.fields, '\\' ∉ f.name.toList)
    (hcode : ∀ name ∈ (CreateTable.ofTable t).unquotedNames, IsCode name) :
  (∀ token ∈ tokenize t.createSql, token.kind ≠ .error)
    ∧ (tokenize t.createSql).countP (·.kind = .semicolon)
      = 1 + 3 * t.autoIncrementFields.length
        + semicolonsIn (CreateTable.ofTable t).unquotedNames
  := by
  have hparts : HasCleanParts t :=
    { name := hname
      fields := hfields
      descriptions := fun h => by rw [hd] at h; contradiction
      unquoted := fun name hmem => leads_of_isCode (hcode name hmem) }
  obtain ⟨q, hrun, hq⟩ := leads_fragments hparts .fresh rfl
  have htokens := tokenize_of_check? hrun hq
  rwa [semicolonsOf_createTable hd] at htokens

/-- Where the unquoted names of a table are code, its statements have no errors, and they end in as
many semicolons as they should have if and only if there is none in an unquoted name. -/
theorem tokenize_createSql_semicolons (t : Table) (hd : t.dialect = .oracle)
    (hname : '\\' ∉ t.name.toList) (hfields : ∀ f ∈ t.fields, '\\' ∉ f.name.toList)
    (hcode : ∀ name ∈ (CreateTable.ofTable t).unquotedNames, IsCode name) :
  (∀ token ∈ tokenize t.createSql, token.kind ≠ .error)
    ∧ ((tokenize t.createSql).countP (·.kind = .semicolon)
        = 1 + 3 * t.autoIncrementFields.length
      ↔ ∀ name ∈ (CreateTable.ofTable t).unquotedNames, ';' ∉ name.toList)
  := by
  obtain ⟨herror, hcount⟩ := tokenize_createSql_of_isCode hd hname hfields hcode
  use herror
  rw [hcount, Nat.add_eq_left]
  exact semicolonsIn_eq_zero_iff

/-- Semicolons, quotes and comments in names that are quoted, and spaces, parentheses and letters
outside of ASCII in one that is not. -/
theorem tokenize_createSql_semicolons_quoted :
  let t : Table :=
    { name := "größe (neu)"
      fields := [{ name := "a\"; DROP TABLE \"x\"; --", type := .int, primaryKey := true },
        { name := "id 1", type := .int, primaryKey := true, autoIncrement := true }]
      dialect := .oracle }
  (∀ token ∈ tokenize t.createSql, token.kind ≠ .error)
    ∧ (tokenize t.createSql).countP (·.kind = .semicolon) = 4
  := by
  intro t
  obtain ⟨herror, hcount⟩ := tokenize_createSql_semicolons t rfl (by decide) (by decide)
    (by decide +kernel)
  exact ⟨herror, hcount.mpr (by decide +kernel)⟩

/-- A semicolon in the name of a counted field goes into three unquoted names. -/
theorem tokenize_createSql_extra_semicolons :
  let t : Table :=
    { name := "t"
      fields := [{ name := "a;b", type := .int, primaryKey := true, nullable := false
                   autoIncrement := true }]
      dialect := .oracle }
  t.defect? = none ∧ (tokenize t.createSql).countP (·.kind = .semicolon) = 7
  := by
  intro t
  have htokens := tokenize_createSql_of_isCode (t := t) rfl (by decide) (by decide)
    (by decide +kernel)
  refine ⟨by decide, ?_⟩
  rw [htokens.2]
  decide +kernel

end SqlScribe.Statement
