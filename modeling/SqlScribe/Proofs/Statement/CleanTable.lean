import SqlScribe.Proofs.Statement.Clauses
import SqlScribe.Proofs.Statement.CleanInsert

/-!
# Generated statements are read as they were written

The statements that create a table pass the check of statements as well.  Besides quoted names
and descriptions they have the sizes of types in them, which are numerals, and in one dialect
the upper-case names of keys, sequences and triggers, which are not quoted and so have to be
words.  With that, all statements for a table and its rows are read cleanly
(`insertSql_createSql_isCleanlyRead`).
-/

namespace SqlScribe.Statement

open Sql Text Number CodeState

variable {d : Dialect}

/-! ### Unquoted names and types -/

theorem isWordCharacter_upperForm {c : Char} (h : isWordCharacter c = true) :
  ∀ d ∈ upperForm c, isWordCharacter d = true
  := by
  have hlt : c.toNat < 0x80 := by
    have hcode := toNat_of_isWordCharacter h
    omega
  have hall : ∀ n < 0x80, isWordCharacter (Char.ofNat n) = true →
      isWordCharacter (Char.ofNat n).toUpper = true := by
    decide +kernel
  intro d hd
  rw [upperForm, if_pos hlt, List.mem_singleton] at hd
  have hword := hall c.toNat hlt
  rw [Char.ofNat_toNat] at hword
  rw [hd]
  exact hword h

/-- The text consists of ASCII letters, digits and underscores. -/
def IsWordText (s : String) : Prop :=
  ∀ c ∈ s.toList, isWordCharacter c = true

instance (s : String) : Decidable (IsWordText s) :=
  decidable_of_iff (s.toList.all isWordCharacter = true) List.all_eq_true

theorem isWordText_append {a b : String} (ha : IsWordText a) (hb : IsWordText b) :
  IsWordText (a ++ b)
  := by
  intro c hc
  rw [String.toList_append] at hc
  rcases List.mem_append.mp hc with hc | hc
  · exact ha c hc
  · exact hb c hc

theorem isWordText_upperCase {s : String} (h : IsWordText s) :
  IsWordText (upperCase s)
  := by
  intro c hc
  rw [upperCase, String.toList_ofList] at hc
  obtain ⟨b, hb, hc⟩ := List.mem_flatMap.mp hc
  exact isWordCharacter_upperForm (h b hb) c hc

/-- The names of sequences and triggers are words, if the names that they are made of are. -/
theorem leads_upperName {start table field : String}
    (hstart : ∀ q ∈ CodeState.all, q.isOpen = true → q.run? (upperCase start).toList = some word)
    (ht : IsWordText table) (hf : IsWordText field) :
  Leads d isOpen [.code (upperCase (start ++ table ++ "_" ++ field))] isComplete
  := by
  have hunderscore : IsWordText "_" := by decide
  have hassoc : start ++ table ++ "_" ++ field = start ++ (table ++ "_" ++ field) := by
    simp [String.append_assoc]
  have hrest : IsWordText (upperCase (table ++ "_" ++ field)) :=
    isWordText_upperCase (isWordText_append (isWordText_append ht hunderscore) hf)
  rw [hassoc, upperCase_append]
  exact leads_word hstart hrest

theorem leads_natural (n : Nat) :
  Leads d isOpen [.code (toString n)] isComplete
  := leads_numeral (isNumeral_of_isDigits (isDigits_toString n))

theorem leads_typeName (t : ColumnType) :
  Leads d isOpen [.code (d.typeName t)] isComplete
  := by
  have hall : ∀ d ∈ Dialect.all, ∀ t ∈ ColumnType.all, ∀ q ∈ CodeState.all, q.isOpen = true →
      (q.run? (d.typeName t).toList).any isComplete = true := by
    decide +kernel
  apply leads_fixed
  apply hall
  · cases d <;> decide
  · cases t <;> decide

theorem leads_nativeText (f : Field) :
  Leads d isOpen [.code (f.nativeText d)] isComplete
  := by
  unfold Field.nativeText
  dsimp only
  split
  · apply leads_typeName
  split
  · apply leads_code_append (Q := isComplete) _ (leads_fixed (by decide))
    apply leads_code_append (Q := isOpen) _ (leads_natural _)
    apply leads_code_append (Q := isComplete) _ (leads_fixed (by decide))
    apply leads_code_append (Q := isOpen) _ (leads_natural _)
    apply leads_code_append (Q := isComplete) (leads_typeName _) (leads_fixed (by decide))
  · apply leads_code_append (Q := isComplete) _ (leads_fixed (by decide))
    apply leads_code_append (Q := isOpen) _ (leads_natural _)
    apply leads_code_append (Q := isComplete) (leads_typeName _) (leads_fixed (by decide))

/-! ### Columns -/

theorem leads_clause {f : Field} {inlineKey : Bool} {clause : ColumnClause}
    (h : clause ∈ clausesOf d f inlineKey) :
  Leads d isOpen clause.fragments isComplete
  := by
  cases clause with
  | comment text =>
    obtain ⟨hd, -⟩ := comment_mem_clausesOf.mp h
    apply Leads.cons (Q := isOpen) (leads_fixed (by decide))
    exact leads_openLiteral (Or.inl hd)
  | _ => exact leads_fixed (by decide)

theorem leads_flatMap {α : Type} {P : CodeState → Bool} {xs : List α} {parts : α → List Fragment}
    (h : ∀ x ∈ xs, Leads d P (parts x) P) :
  Leads d P (xs.flatMap parts) P
  := by
  induction xs with
  | nil => exact leads_nil fun _ _ hq => hq
  | cons x xs ih =>
    rw [List.flatMap_cons]
    apply (h x List.mem_cons_self).append
    apply ih
    intro y hy
    exact h y (List.mem_cons_of_mem x hy)

theorem leads_column {f : Field} (inlineKey : Bool) (h : '\\' ∉ f.name.toList) :
  Leads d isOpen (Column.ofField d f inlineKey).fragments isComplete
  := by
  apply Leads.append (Q := isComplete)
  · apply Leads.cons (leads_openIdentifier h)
    apply Leads.cons (Q := isOpen) (leads_fixed (by decide))
    exact leads_nativeText f
  · apply leads_flatMap
    intro clause hclause
    apply Leads.cons (Q := isOpen) (leads_fixed (by decide))
    exact leads_clause hclause

/-! ### Tables -/

/-- The names that statements after a table write without quotes. -/
def Supplement.unquotedNames : Supplement → List String
  | comments _ _ => []
  | sequence name => [name]
  | trigger name _ counter _ => [name, counter]

/-- The names that the creation of a table writes without quotes. -/
def CreateTable.unquotedNames (c : CreateTable) : List String :=
  (c.key.bind (·.name)).toList ++ c.supplements.flatMap (·.unquotedNames)

variable {t : Table}

theorem leads_keyConstraint {k : KeyConstraint} (hcolumns : ∀ name ∈ k.columns, '\\' ∉ name.toList)
    (hname : ∀ name ∈ k.name, Leads d isOpen [.code name] isComplete) :
  Leads d isOpen k.fragments isComplete
  := by
  apply Leads.append (Q := isComplete) _ (leads_fixed (by decide))
  apply Leads.append (Q := isOpen) _ (leads_columnList hcolumns)
  apply Leads.append (Q := isOpen) _ (leads_fixed (by decide))
  cases hk : k.name with
  | none => exact leads_nil fun _ _ hq => hq
  | some name =>
    apply Leads.cons (Q := isOpen) (leads_fixed (by decide))
    apply Leads.cons (hname name hk)
    exact leads_fixed (by decide)

theorem leads_comments {table : String} {descriptions : List (String × String)}
    (ht : '\\' ∉ table.toList)
    (hdescriptions : ∀ p ∈ descriptions, '\\' ∉ p.1.toList ∧ IsQuotable d p.2) :
  Leads d isOpen (Supplement.comments table descriptions).fragments isComplete
  := by
  apply leads_separatedBy isComplete_of_isOpen (leads_fixed (by decide))
  intro part hpart
  obtain ⟨⟨column, text⟩, hp, rfl⟩ := List.mem_map.mp hpart
  obtain ⟨hcolumn, htext⟩ := hdescriptions _ hp
  apply Leads.cons (Q := isOpen) (leads_fixed (by decide))
  apply Leads.cons (leads_openIdentifier ht)
  apply Leads.cons (Q := isComplete) (leads_fixed (by decide))
  apply Leads.cons (leads_identifier hcolumn)
  apply Leads.cons (Q := isOpen) (leads_fixed (by decide))
  apply Leads.cons (leads_openLiteral htext)
  exact leads_fixed (by decide)

theorem leads_sequence {name : String} (h : Leads d isOpen [.code name] isComplete) :
  Leads d isOpen (Supplement.sequence name).fragments isComplete
  := by
  apply Leads.cons (Q := isOpen) (leads_fixed (by decide))
  apply Leads.cons h
  exact leads_fixed (by decide)

theorem leads_trigger {name table counter column : String}
    (hname : Leads d isOpen [.code name] isComplete) (ht : '\\' ∉ table.toList)
    (hcounter : Leads d isOpen [.code counter] isComplete) (hcolumn : '\\' ∉ column.toList) :
  Leads d isOpen (Supplement.trigger name table counter column).fragments isComplete
  := by
  apply Leads.cons (Q := isOpen) (leads_fixed (by decide))
  apply Leads.cons hname
  apply Leads.cons (Q := isOpen) (leads_fixed (by decide))
  apply Leads.cons (leads_openIdentifier ht)
  apply Leads.cons (Q := isOpen) (leads_fixed (by decide))
  apply Leads.cons hcounter
  apply Leads.cons (Q := isComplete) (leads_fixed (by decide))
  apply Leads.cons (leads_identifier hcolumn)
  exact leads_fixed (by decide)

/-- The conditions on the parts of a table under which its creation is read cleanly. -/
structure HasCleanParts (t : Table) : Prop where
  name : '\\' ∉ t.name.toList
  fields : ∀ f ∈ t.fields, '\\' ∉ f.name.toList
  descriptions : t.dialect = .postgreSql →
    ∀ f ∈ t.fields, ∀ text ∈ f.description, IsQuotable t.dialect text
  unquoted : ∀ name ∈ (CreateTable.ofTable t).unquotedNames,
    Leads t.dialect isOpen [.code name] isComplete

theorem leads_supplement (h : HasCleanParts t) {s : Supplement} (hs : s ∈ supplementsOf t) :
  Leads t.dialect isOpen s.fragments isComplete
  := by
  have hunquoted : ∀ name ∈ s.unquotedNames, Leads t.dialect isOpen [.code name] isComplete := by
    intro name hname
    apply h.unquoted
    exact List.mem_append_right _ (List.mem_flatMap.mpr ⟨s, hs, hname⟩)
  unfold supplementsOf at hs
  split at hs
  · next hd =>
    dsimp only at hs
    split at hs
    · contradiction
    · rw [List.mem_singleton.mp hs]
      apply leads_comments h.name
      intro p hp
      obtain ⟨f, hf, hp⟩ := List.mem_filterMap.mp hp
      obtain ⟨text, htext, rfl⟩ := Option.map_eq_some_iff.mp hp
      constructor
      · exact h.fields f hf
      · exact h.descriptions hd f hf text (Option.mem_filter_iff.mp htext).1
  · obtain ⟨f, hf, hs⟩ := List.mem_flatMap.mp hs
    have hf := List.mem_of_mem_filter hf
    simp only [List.mem_cons, List.not_mem_nil, or_false] at hs
    rcases hs with rfl | rfl
    · apply leads_sequence
      exact hunquoted _ (by simp [Supplement.unquotedNames])
    · apply leads_trigger _ h.name _ (h.fields f hf)
      · exact hunquoted _ (by simp [Supplement.unquotedNames])
      · exact hunquoted _ (by simp [Supplement.unquotedNames])
  · contradiction

theorem leads_lines (h : HasCleanParts t) :
  ∀ line ∈ (CreateTable.ofTable t).lines, Leads t.dialect isOpen line isComplete
  := by
  intro line hline
  obtain ⟨part, hpart, rfl⟩ := List.mem_map.mp hline
  apply Leads.cons (Q := isOpen) (leads_fixed (by decide))
  rcases List.mem_append.mp hpart with hpart | hpart
  · obtain ⟨column, hcolumn, rfl⟩ := List.mem_map.mp hpart
    obtain ⟨f, hf, rfl⟩ := List.mem_map.mp hcolumn
    exact leads_column _ (h.fields f hf)
  · obtain ⟨key, hkey, rfl⟩ := Option.map_eq_some_iff.mp (Option.mem_toList.mp hpart)
    have hunquoted : ∀ name ∈ key.name, Leads t.dialect isOpen [.code name] isComplete := by
      intro name hname
      apply h.unquoted
      apply List.mem_append_left
      exact Option.mem_toList.mpr (Option.mem_bind_iff.mpr ⟨key, hkey, hname⟩)
    rw [CreateTable.ofTable, Option.ite_none_right_eq_some] at hkey
    obtain ⟨-, hkey⟩ := hkey
    cases hkey
    apply leads_keyConstraint _ hunquoted
    intro name hname
    obtain ⟨f, hf, rfl⟩ := List.mem_map.mp hname
    exact h.fields f (List.mem_of_mem_filter hf)

/-- The creation of a table leads from the start to a complete lexeme. -/
theorem leads_fragments (h : HasCleanParts t) :
  Leads t.dialect isComplete (CreateTable.ofTable t).fragments isComplete
  := by
  have hlines : Leads t.dialect isOpen (separatedBy ",\n" (CreateTable.ofTable t).lines)
      isComplete :=
    leads_separatedBy isComplete_of_isOpen (leads_fixed (by decide)) (leads_lines h)
  have hsupplements : Leads t.dialect isComplete ((CreateTable.ofTable t).supplements.flatMap
      fun s => .code "\n\n" :: s.fragments) isComplete := by
    apply leads_flatMap
    intro s hs
    apply Leads.cons (Q := isOpen) (leads_fixed (by decide))
    exact leads_supplement h hs
  apply Leads.append (Q := isComplete) _ hsupplements
  apply Leads.append (Q := isComplete) _ (leads_fixed (by decide))
  apply Leads.append (Q := isComplete)
  · apply Leads.append (Q := isComplete) _ (leads_fixed (by decide))
    apply Leads.append (Q := isOpen) _ hlines
    apply Leads.cons (Q := isOpen) (leads_fixed (by decide))
    apply Leads.cons (leads_openIdentifier h.name)
    exact leads_fixed (by decide)
  · cases hd : t.dialect with
    | mySql =>
      simp only [CreateTable.ofTable, tableOptions?, hd]
      apply Leads.cons (Q := isOpen) (leads_fixed (by decide))
      exact leads_fixed (by decide)
    | _ =>
      simp only [CreateTable.ofTable, tableOptions?, hd]
      exact leads_nil fun _ _ hq => hq

/-! ### Names that are words -/

/-- Where the names of a table go into names that are not quoted, they are words. -/
def HasWordNames (t : Table) : Prop :=
  IsWordText t.name ∧ ∀ f ∈ t.fields, IsWordText f.name

/-- The conditions on a table under which its creation is read cleanly. -/
structure IsCleanTable (t : Table) : Prop where
  name : '\\' ∉ t.name.toList
  fields : ∀ f ∈ t.fields, '\\' ∉ f.name.toList
  descriptions : ∀ f ∈ t.fields, ∀ text ∈ f.description, IsQuotable t.dialect text
  words : t.dialect = .oracle → HasWordNames t

theorem leads_sequenceName {table field : String} (ht : IsWordText table) (hf : IsWordText field) :
  Leads d isOpen [.code (sequenceName table field)] isComplete
  := leads_upperName (by decide) ht hf

theorem leads_triggerName {table field : String} (ht : IsWordText table) (hf : IsWordText field) :
  Leads d isOpen [.code (triggerName table field)] isComplete
  := leads_upperName (by decide) ht hf

/-- Only one dialect writes names without quotes, and there they are made of the names of the
table. -/
theorem leads_unquotedName (h : t.dialect = .oracle → HasWordNames t) {name : String}
    (hname : name ∈ (CreateTable.ofTable t).unquotedNames) :
  Leads d isOpen [.code name] isComplete
  := by
  rcases List.mem_append.mp hname with hname | hname
  · obtain ⟨key, hkey, hname⟩ := Option.mem_bind_iff.mp (Option.mem_toList.mp hname)
    rw [CreateTable.ofTable, Option.mem_def, Option.ite_none_right_eq_some] at hkey
    obtain ⟨-, hkey⟩ := hkey
    cases hkey
    cases hd : t.dialect with
    | oracle =>
      simp only [KeyConstraint.ofTable, hd, Option.mem_some_iff] at hname
      rw [← hname]
      exact leads_word (by decide) (isWordText_upperCase (h hd).1)
    | _ => simp [KeyConstraint.ofTable, hd] at hname
  · obtain ⟨s, hs, hname⟩ := List.mem_flatMap.mp hname
    change s ∈ supplementsOf t at hs
    unfold supplementsOf at hs
    split at hs
    · dsimp only at hs
      split at hs
      · contradiction
      · rw [List.mem_singleton.mp hs] at hname
        contradiction
    · next hd =>
      obtain ⟨ht, hwords⟩ := h hd
      obtain ⟨f, hf, hs⟩ := List.mem_flatMap.mp hs
      have hf := hwords f (List.mem_of_mem_filter hf)
      simp only [List.mem_cons, List.not_mem_nil, or_false] at hs
      rcases hs with rfl | rfl
      · rw [Supplement.unquotedNames, List.mem_singleton] at hname
        rw [hname]
        exact leads_sequenceName ht hf
      · simp only [Supplement.unquotedNames, List.mem_cons, List.not_mem_nil, or_false] at hname
        rcases hname with rfl | rfl
        · exact leads_triggerName ht hf
        · exact leads_sequenceName ht hf
    · contradiction

theorem leads_createTable (h : IsCleanTable t) :
  Leads t.dialect isComplete (CreateTable.ofTable t).fragments isComplete
  := leads_fragments
    { name := h.name
      fields := h.fields
      descriptions := fun _ => h.descriptions
      unquoted := fun _ => leads_unquotedName h.words }

/-! ### All statements for a table -/

theorem isClean_ofTable {rows : List Row} (hname : '\\' ∉ t.name.toList)
    (hfields : ∀ f ∈ t.fields, '\\' ∉ f.name.toList)
    (htexts : ∀ row ∈ rows, ∀ cell ∈ row.cells, ∀ s, cell.2 = .text s → IsQuotable t.dialect s) :
  (Insert.ofTable t rows).IsClean t.dialect
  where
  table := hname
  columns := by
    intro name hname
    obtain ⟨f, hf, rfl⟩ := List.mem_map.mp hname
    exact hfields f hf
  rows := by
    intro cells hcells cell hcell
    obtain ⟨row, hrow, rfl⟩ := List.mem_map.mp hcells
    obtain ⟨f, hf, rfl⟩ := List.mem_map.mp hcell
    apply leads_ofValue
    intro s hs
    exact htexts row hrow _ (Row.get?_eq_some_iff.mp hs) s rfl

/-- The statements for a table are read without errors, and each quoted name and text in them as
identifiers or as string literals.  No name may have a backslash, and neither may a description
or a text of a row, except where the dialect doubles it; where names go into other names that
are not quoted, they have to be words for the creation of the table. -/
theorem insertSql_createSql_isCleanlyRead (t : Table) (rows : List Row)
    (hname : '\\' ∉ t.name.toList) (hfields : ∀ f ∈ t.fields, '\\' ∉ f.name.toList)
    (hdescriptions : ∀ f ∈ t.fields, ∀ text ∈ f.description, IsQuotable t.dialect text)
    (htexts : ∀ row ∈ rows, ∀ cell ∈ row.cells, ∀ s, cell.2 = .text s → IsQuotable t.dialect s) :
  IsCleanlyRead t.dialect ((Insert.ofTable t rows).fragments t.dialect) (t.insertSql rows)
    ∧ ((t.dialect = .oracle → HasWordNames t) →
      IsCleanlyRead t.dialect (CreateTable.ofTable t).fragments t.createSql)
  := by
  constructor
  · have hclean := isClean_ofTable hname hfields htexts
    obtain ⟨q, hrun, hq⟩ := Insert.leads_fragments hclean .fresh rfl
    exact isCleanlyRead_of_check? hrun hq
  · intro hwords
    obtain ⟨q, hrun, hq⟩ := leads_createTable ⟨hname, hfields, hdescriptions, hwords⟩ .fresh rfl
    exact isCleanlyRead_of_check? hrun hq

/-- A table of a dialect that counts up by sequences, with a text that has quotes and looks like a
comment. -/
theorem insertSql_createSql_isCleanlyRead_quotes :
  let t : Table :=
    { name := "order_lines"
      fields := [{ name := "id", type := .int, primaryKey := true, autoIncrement := true },
        { name := "placed", type := .timestamp },
        { name := "note", type := .text, description := some "it's free" }]
      dialect := .oracle }
  let rows : List Row :=
    [{ cells := [("note", .text "it's '' -- ; DROP"), ("id", .text "+5.e-3")] }, {}]
  IsCleanlyRead .oracle ((Insert.ofTable t rows).fragments .oracle) (t.insertSql rows)
    ∧ IsCleanlyRead .oracle (CreateTable.ofTable t).fragments t.createSql
  := by
  intro t rows
  have htexts : ∀ row ∈ rows, ∀ cell ∈ row.cells, ∀ s, cell.2 = .text s → IsQuotable .oracle s := by
    intro row hrow cell hcell s hs
    right
    simp only [rows, List.mem_cons, List.not_mem_nil, or_false] at hrow
    rcases hrow with rfl | rfl
    · simp only [List.mem_cons, List.not_mem_nil, or_false] at hcell
      rcases hcell with rfl | rfl <;> cases hs <;> decide
    · contradiction
  have hdescriptions : ∀ f ∈ t.fields, ∀ text ∈ f.description, IsQuotable .oracle text := by
    intro f hf text htext
    right
    simp only [t, List.mem_cons, List.not_mem_nil, or_false] at hf
    rcases hf with rfl | rfl | rfl <;> cases htext
    decide
  have hboth := insertSql_createSql_isCleanlyRead t rows (by decide) (by decide) hdescriptions
    htexts
  use hboth.1
  apply hboth.2
  intro _
  unfold HasWordNames
  decide

end SqlScribe.Statement
