import SqlScribe.Proofs.Statement.Leading
import SqlScribe.Statement.Insert

/-!
# INSERT statements that are read as they were written

The INSERT statements of a table pass the check of statements.  Each part of a statement leads
from the states in which it can stand to states in which what follows it can stand; the only
code that depends on the data are numerals.  No name may have a backslash, and no text may
have one where the dialect does not double it (`IsQuotable`).  The texts that are made up for
values of other sorts, and for timestamps that are brought into the layout of the mask, never
have one.
-/

namespace SqlScribe.Statement

open Sql Text Number CodeState

variable {d : Dialect}

/-! ### Texts without backslashes -/

/-- The quoted form of a text does not put an unescaped backslash before a mark. -/
def IsQuotable (d : Dialect) (text : String) : Prop :=
  d = .mySql ∨ '\\' ∉ text.toList

theorem not_mem_of_isNumeral {s : List Char} (h : IsNumeral s) :
  '\\' ∉ s
  := by
  intro hm
  rcases h.characters _ hm with hd | hc
  · contradiction
  · revert hc
    decide

theorem not_mem_display {v : Value} (h : ∀ s, v ≠ .text s) :
  '\\' ∉ v.display.toList
  := by
  cases v with
  | null => decide
  | bool b => cases b <;> decide
  | int n => exact not_mem_of_isNumeral (isNumeral_toString n.toInt)
  | float x =>
    cases hx : x.isFinite with
    | true => exact not_mem_of_isNumeral (isNumeral_write hx)
    | false =>
      cases x with
      | nan => decide
      | infinite negative => cases negative <;> decide
      | finite => contradiction
  | text s => exact absurd rfl (h s)

theorem isQuotable_display {v : Value} (h : ∀ s, v = .text s → IsQuotable d s) :
  IsQuotable d v.display
  := by
  cases v with
  | text s => exact h s rfl
  | _ =>
    right
    apply not_mem_display
    intro s hs
    contradiction

theorem not_mem_padded (width n : Nat) :
  '\\' ∉ (Calendar.Moment.padded width n).toList
  := by
  intro hm
  rw [Calendar.Moment.padded, String.toList_ofList] at hm
  rcases List.mem_append.mp hm with hm | hm
  · have hd := isDigit_of_mem_replicate hm
    contradiction
  · have hd := (isDigits_toDigits n).all _ hm
    contradiction

theorem not_mem_write (m : Calendar.Moment) :
  '\\' ∉ m.write.toList
  := by
  have hyear : '\\' ∉ (Calendar.Moment.writeYear m.date.year).toList := by
    unfold Calendar.Moment.writeYear
    split
    · simp [not_mem_padded]
    · split <;> simp [not_mem_padded]
  simp [Calendar.Moment.write, hyear, not_mem_padded]

/-- A text that is brought into the layout of the mask is quotable, and so is any other that was
quotable before. -/
theorem isQuotable_normalizeTimestamp {s : String} (h : IsQuotable d s) :
  IsQuotable d ((Calendar.normalizeTimestamp? s).getD s)
  := by
  cases hn : Calendar.normalizeTimestamp? s with
  | none => exact h
  | some w =>
    right
    obtain ⟨m, -, rfl⟩ := Option.map_eq_some_iff.mp hn
    exact not_mem_write m

/-! ### INSERT statements -/

theorem isComplete_of_isOpen :
  ∀ q ∈ CodeState.all, q.isOpen = true → q.isComplete = true
  := by
  decide

theorem leads_openLiteral {s : String} (hs : IsQuotable d s) :
  Leads d isOpen [.literal s] isComplete
  := (leads_literal hs).mono isComplete_of_isOpen fun _ _ h => h

theorem leads_openIdentifier {name : String} (h : '\\' ∉ name.toList) :
  Leads d isOpen [.identifier name] isComplete
  := (leads_identifier h).mono isComplete_of_isOpen fun _ _ h => h

theorem leads_castSuffix (t : ColumnType) :
  ∀ c ∈ d.castSuffix? t, Leads d isComplete [.code c] isComplete
  := by
  intro c hc
  cases d with
  | postgreSql =>
    simp only [Dialect.castSuffix?] at hc
    split at hc
    · cases hc
      exact leads_fixed (by decide)
    · split at hc
      · cases hc
        exact leads_fixed (by decide)
      · contradiction
  | _ => contradiction

/-- A quoted text with a cast after it, if there is one. -/
theorem leads_text {s : String} {cast : Option String} (hs : IsQuotable d s)
    (hcast : ∀ c ∈ cast, Leads d isComplete [.code c] isComplete) :
  Leads d isOpen ((Cell.text s cast).fragments d) isComplete
  := by
  apply Leads.cons (leads_openLiteral hs)
  cases cast with
  | none => exact leads_nil fun _ _ h => h
  | some c => exact hcast c rfl

theorem leads_timestamp {s : String} (hs : IsQuotable d s) :
  Leads d isOpen ((Cell.timestamp s).fragments d) isComplete
  := by
  have hmask : IsQuotable d Cell.timestampMask := by
    right
    decide
  apply Leads.cons (Q := isOpen) (leads_fixed (by decide))
  apply Leads.cons (leads_openLiteral hs)
  apply Leads.cons (Q := isOpen) (leads_fixed (by decide))
  apply Leads.cons (leads_openLiteral hmask)
  exact leads_fixed (by decide)

theorem leads_ofText (t : ColumnType) {s : String} (hs : IsQuotable d s) :
  Leads d isOpen ((Cell.ofText d t s).fragments d) isComplete
  := by
  unfold Cell.ofText
  split
  · exact leads_timestamp (isQuotable_normalizeTimestamp hs)
  · exact leads_text hs (leads_castSuffix t)

theorem leads_boolean (b : Bool) :
  Leads d isOpen ((Cell.boolean b).fragments d) isComplete
  := by
  cases d <;> cases b <;> exact leads_fixed (by decide)

theorem leads_ofWritable (t : ColumnType) {v : Value} (hv : ∀ s, v = .text s → IsQuotable d s) :
  Leads d isOpen ((Cell.ofWritable d t v).fragments d) isComplete
  := by
  have hdisplay := isQuotable_display hv
  unfold Cell.ofWritable
  split
  · split
    · next n hn => exact leads_numeral (Value.isNumeral_of_asNumber? hn)
    · apply leads_text hdisplay
      intro c hc
      contradiction
  split
  · split
    · apply leads_boolean
    · apply leads_text hdisplay
      intro c hc
      contradiction
  · exact leads_ofText t hdisplay

/-- The cell of a value leads from where it can stand to where the row can go on. -/
theorem leads_ofValue (t : ColumnType) {v : Option Value}
    (hv : ∀ s, v = some (.text s) → IsQuotable d s) :
  Leads d isOpen ((Cell.ofValue d t v).fragments d) isComplete
  := by
  have hnull : Leads d isOpen (Cell.null.fragments d) isComplete := leads_fixed (by decide)
  unfold Cell.ofValue
  split
  · exact hnull
  · next v =>
    split
    · exact hnull
    · apply leads_ofWritable
      rintro s rfl
      exact hv s rfl

theorem leads_columnList {names : List String} (h : ∀ name ∈ names, '\\' ∉ name.toList) :
  Leads d isOpen (columnList names) isComplete
  := by
  apply leads_separatedBy isComplete_of_isOpen (leads_fixed (by decide))
  intro part hpart
  obtain ⟨name, hname, rfl⟩ := List.mem_map.mp hpart
  exact leads_openIdentifier (h name hname)

namespace Insert

/-- What the check asks of what is inserted: no name has a backslash, and each cell leads from
where it can stand to where the row can go on. -/
structure IsClean (d : Dialect) (i : Insert) : Prop where
  table : '\\' ∉ i.table.toList
  columns : ∀ name ∈ i.columns, '\\' ∉ name.toList
  rows : ∀ cells ∈ i.rows, ∀ cell ∈ cells, Leads d isOpen (cell.fragments d) isComplete

variable {i : Insert}

theorem leads_head (h : i.IsClean d) :
  Leads d isComplete i.head isComplete
  := by
  unfold head
  apply Leads.append (Q := isComplete)
  · apply Leads.append (Q := isOpen)
    · apply Leads.cons (Q := isOpen) (leads_fixed (by decide))
      apply Leads.cons (leads_openIdentifier h.table)
      exact leads_fixed (by decide)
    · exact leads_columnList h.columns
  · exact leads_fixed (by decide)

theorem leads_valueList {cells : List Cell}
    (h : ∀ cell ∈ cells, Leads d isOpen (cell.fragments d) isComplete) :
  Leads d isOpen (valueList d cells) isComplete
  := by
  apply leads_separatedBy isComplete_of_isOpen (leads_fixed (by decide))
  intro part hpart
  obtain ⟨cell, hcell, rfl⟩ := List.mem_map.mp hpart
  exact h cell hcell

theorem leads_selectList {columns : List String} {cells : List Cell}
    (hcolumns : ∀ name ∈ columns, '\\' ∉ name.toList)
    (h : ∀ cell ∈ cells, Leads d isOpen (cell.fragments d) isComplete) :
  Leads d isOpen (selectList d columns cells) isComplete
  := by
  apply leads_separatedBy isComplete_of_isOpen (leads_fixed (by decide))
  intro part hpart
  obtain ⟨⟨cell, name⟩, hmem, rfl⟩ := List.mem_map.mp hpart
  obtain ⟨hcell, hname⟩ := List.of_mem_zip hmem
  apply (h cell hcell).append
  apply Leads.cons (Q := isOpen) (leads_fixed (by decide))
  exact leads_openIdentifier (hcolumns name hname)

theorem leads_asValueList (h : i.IsClean d) :
  Leads d isComplete (i.asValueList d) isComplete
  := by
  have hhead : Leads d isComplete (i.head ++ [.code " VALUES\n"]) isOpen :=
    (leads_head h).append (leads_fixed (by decide))
  apply Leads.append (Q := isComplete) _ (leads_fixed (by decide))
  apply hhead.append
  apply leads_separatedBy isComplete_of_isOpen (leads_fixed (by decide))
  intro part hpart
  obtain ⟨cells, hcells, rfl⟩ := List.mem_map.mp hpart
  apply Leads.append (Q := isComplete)
  · apply Leads.append (Q := isOpen) (leads_fixed (by decide))
    exact leads_valueList (h.rows cells hcells)
  · exact leads_fixed (by decide)

theorem leads_asUnion (h : i.IsClean d) :
  Leads d isComplete (i.asUnion d) isComplete
  := by
  have hhead : Leads d isComplete (i.head ++ [.code "\nSELECT * FROM (\n"]) isOpen :=
    (leads_head h).append (leads_fixed (by decide))
  apply Leads.append (Q := isComplete) _ (leads_fixed (by decide))
  apply hhead.append
  apply leads_separatedBy isComplete_of_isOpen (leads_fixed (by decide))
  intro part hpart
  obtain ⟨cells, hcells, rfl⟩ := List.mem_map.mp hpart
  apply Leads.append (Q := isComplete)
  · apply Leads.append (Q := isOpen) (leads_fixed (by decide))
    exact leads_selectList h.columns (h.rows cells hcells)
  · exact leads_fixed (by decide)

theorem leads_asRows (h : i.IsClean d) :
  Leads d isComplete (i.asRows d) isComplete
  := by
  apply leads_separatedBy (fun _ _ hq => hq) (leads_fixed (by decide))
  intro part hpart
  obtain ⟨cells, hcells, rfl⟩ := List.mem_map.mp hpart
  have hhead : Leads d isComplete (i.head ++ [.code " VALUES ("]) isOpen :=
    (leads_head h).append (leads_fixed (by decide))
  apply Leads.append (Q := isComplete) _ (leads_fixed (by decide))
  apply hhead.append
  exact leads_valueList (h.rows cells hcells)

theorem leads_fragments (h : i.IsClean d) :
  Leads d isComplete (i.fragments d) isComplete
  := by
  unfold fragments
  split
  · exact leads_nil fun _ _ hq => hq
  · split
    · exact leads_asValueList h
    · exact leads_asUnion h
    · exact leads_asRows h

end Insert

end SqlScribe.Statement
