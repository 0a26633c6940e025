import SqlScribe.Proofs.Number.Numeral
import SqlScribe.Statement.Cell

/-!
# The forms of cells

What a value looks like in a statement.  Where there is no value, or none that SQL can write, it is
the word for that and nothing else.  Everything else has one of a few forms: a numeral in a column
of numbers, one of two words in a column of truth values, and otherwise a quoted text, alone, with a
cast after it, or in a call that reads it by a mask (`write_ofValue_isForm`).  So nothing of
a value stands outside of quotes but numerals, and a text is taken for a number only if it is a
numeral between blank characters.
-/

namespace SqlScribe.Statement

open Number

/-- There is no value, or it is one that SQL cannot write. -/
inductive IsUnwritable : Option Value → Prop
  | missing : IsUnwritable none
  | null : IsUnwritable (some .null)
  | notFinite {x : Double} : x.isFinite = false → IsUnwritable (some (.float x))

/-- What a dialect writes after a quoted text in a column of a type. -/
inductive IsCast (d : Dialect) (t : ColumnType) : String → Prop
  | none : (d = .postgreSql → t.isTemporal = false ∧ t ≠ .json) → IsCast d t ""
  | timestamp : d = .postgreSql → t.isTemporal = true → IsCast d t "::timestamp"
  | json : d = .postgreSql → t = .json → IsCast d t "::jsonb"

/-- Nothing but a quoted text is left for a value: it is no number in a column of numbers and no
truth value in a column of truth values, and it is not read by a mask. -/
structure NeedsQuotes (d : Dialect) (t : ColumnType) (v : Value) : Prop where
  number : t.isNumeric = true → v.asNumber? = none
  boolean : t = .boolean → v.asBool? = none
  timestamp : d = .oracle → t.isTemporal = false

/-- The text is the form in which a dialect writes a value in a column of a type. -/
inductive IsForm (d : Dialect) (t : ColumnType) (v : Value) : String → Prop
  | number {s : String} : t.isNumeric = true → v.asNumber? = some s → IsNumeral s.toList →
    IsForm d t v s
  | truth : t = .boolean → v.asBool? = some true →
    IsForm d t v (if d = .postgreSql then "TRUE" else "1")
  | falsehood : t = .boolean → v.asBool? = some false →
    IsForm d t v (if d = .postgreSql then "FALSE" else "0")
  | quoted {cast : String} : NeedsQuotes d t v → IsCast d t cast →
    IsForm d t v (d.quoteLiteral v.display ++ cast)
  | masked {s : String} : d = .oracle → t.isTemporal = true →
    s = (Calendar.normalizeTimestamp? v.display).getD v.display →
    IsForm d t v ("TO_TIMESTAMP(" ++ d.quoteLiteral s ++ ", "
      ++ d.quoteLiteral "YYYY-MM-DD HH24:MI:SS" ++ ")")

variable {d : Dialect} {t : ColumnType} {v : Value}

/-! ### Cells as they are written -/

theorem write_code (s : String) :
  write d [.code s] = s
  := by
  simp [write, Fragment.write]

theorem write_text (s : String) (cast : Option String) :
  write d ((Cell.text s cast).fragments d) = d.quoteLiteral s ++ cast.getD ""
  := by
  cases cast <;>
    simp [write, Cell.fragments, Fragment.write, Dialect.quoteLiteral, Text.Quoted.Style.quote]

theorem write_timestamp (s : String) :
  write d ((Cell.timestamp s).fragments d)
    = "TO_TIMESTAMP(" ++ d.quoteLiteral s ++ ", " ++ d.quoteLiteral Cell.timestampMask ++ ")"
  := by
  simp [write, Cell.fragments, Fragment.write, Dialect.quoteLiteral, Text.Quoted.Style.quote,
    ← String.toList_inj]

/-! ### Values that SQL can write -/

theorem isCast_castSuffix? :
  IsCast d t ((d.castSuffix? t).getD "")
  := by
  unfold Dialect.castSuffix?
  split
  · split
    · next ht => exact .timestamp rfl ht
    next ht =>
    split
    · next hjson => exact .json rfl (beq_iff_eq.mp hjson)
    · next hjson => exact .none fun _ => ⟨by simpa using ht, by simpa using hjson⟩
  · next hd => exact .none fun h => absurd h hd

/-- A number or a truth value that is none is quoted, without a cast. -/
theorem isForm_text (ht : t.isNumeric = true ∨ t = .boolean)
    (hnumber : t.isNumeric = true → v.asNumber? = none)
    (hboolean : t = .boolean → v.asBool? = none) :
  IsForm d t v (write d ((Cell.text v.display none).fragments d))
  := by
  have hother : t.isTemporal = false ∧ t ≠ .json := by
    rcases ht with ht | rfl
    · revert ht
      cases t <;> decide
    · decide
  rw [write_text]
  exact .quoted ⟨hnumber, hboolean, fun _ => hother.1⟩ (.none fun _ => hother)

theorem isForm_boolean {b : Bool} (ht : t = .boolean) (hb : v.asBool? = some b) :
  IsForm d t v (write d ((Cell.boolean b).fragments d))
  := by
  have hwritten : write d ((Cell.boolean b).fragments d)
      = if d = .postgreSql then (if b then "TRUE" else "FALSE") else if b then "1" else "0" := by
    rw [Cell.fragments, write_code]
    cases d <;> rfl
  rw [hwritten]
  cases b with
  | true => exact .truth ht hb
  | false => exact .falsehood ht hb

/-- In the other columns a value is a text, with a cast or a mask if the dialect has one. -/
theorem isForm_ofText (hnumber : ¬ t.isNumeric = true) (hboolean : ¬ t = .boolean) :
  IsForm d t v (write d ((Cell.ofText d t v.display).fragments d))
  := by
  unfold Cell.ofText
  split
  · next h =>
    rw [Bool.and_eq_true, beq_iff_eq] at h
    rw [write_timestamp]
    exact .masked h.1 h.2 rfl
  · next h =>
    rw [Bool.and_eq_true, beq_iff_eq, not_and, Bool.not_eq_true] at h
    rw [write_text]
    exact .quoted ⟨fun ht => absurd ht hnumber, fun ht => absurd ht hboolean, h⟩ isCast_castSuffix?

/-- A value that SQL can write has one of the forms. -/
theorem isForm_ofWritable :
  IsForm d t v (write d ((Cell.ofWritable d t v).fragments d))
  := by
  unfold Cell.ofWritable
  split
  · next ht =>
    have hboolean : t ≠ .boolean := by
      rintro rfl
      contradiction
    split
    · next n hn =>
      rw [Cell.fragments, write_code]
      exact .number ht hn (Value.isNumeral_of_asNumber? hn)
    · next hn => exact isForm_text (Or.inl ht) (fun _ => hn) fun h => absurd h hboolean
  next hnumber =>
  split
  · next ht =>
    rw [beq_iff_eq] at ht
    split
    · next b hb => exact isForm_boolean ht hb
    · next hb => exact isForm_text (Or.inr ht) (fun h => absurd h hnumber) fun _ => hb
  · next hboolean => exact isForm_ofText hnumber (by simpa using hboolean)

/-! ### The word for no value -/

theorem head?_quoteLiteral (s rest : String) :
  (d.quoteLiteral s ++ rest).toList.head? = some '\''
  := by
  rw [String.toList_append, Dialect.quoteLiteral, Text.Quoted.Style.quote, String.toList_ofList]
  cases d <;> rfl

/-- No form of a value is the word for no value. -/
theorem IsForm.ne_null {s : String} (h : IsForm d t v s) :
  s ≠ "NULL"
  := by
  rintro rfl
  generalize hs : "NULL" = s at h
  have hhead : s.toList.head? = some 'N' := by
    rw [← hs]
    rfl
  cases h with
  | number _ _ hn =>
    rw [← hs] at hn
    have hletter := hn.characters 'N' (by decide)
    revert hletter
    simp [IsNumeralCharacter]
  | truth => split at hs <;> contradiction
  | falsehood => split at hs <;> contradiction
  | quoted =>
    rw [head?_quoteLiteral] at hhead
    contradiction
  | masked =>
    simp [String.append_assoc] at hhead

theorem isUnwritable_iff {v : Option Value} :
  IsUnwritable v ↔ ∀ x ∈ v, x.isNullLike = true
  := by
  constructor
  · intro h x hx
    cases h with
    | missing => contradiction
    | null =>
      cases hx
      rfl
    | notFinite hfinite =>
      cases hx
      simp [Value.isNullLike, hfinite]
  · intro h
    cases v with
    | none => exact .missing
    | some x =>
      have hx := h x rfl
      cases x with
      | null => exact .null
      | float x => exact .notFinite (by simpa [Value.isNullLike] using hx)
      | _ => contradiction

theorem ofValue_of_isUnwritable {v : Option Value} (h : IsUnwritable v) :
  Cell.ofValue d t v = .null
  := by
  cases v with
  | none => rfl
  | some x => rw [Cell.ofValue, if_pos (isUnwritable_iff.mp h x rfl)]

theorem exists_ofValue_of_not_isUnwritable {v : Option Value} (h : ¬ IsUnwritable v) :
  ∃ x, v = some x ∧ Cell.ofValue d t v = Cell.ofWritable d t x
  := by
  cases v with
  | none => exact absurd .missing h
  | some x =>
    use x, rfl
    have hx : x.isNullLike = false := by
      simpa [isUnwritable_iff] using h
    simp [Cell.ofValue, hx]

theorem write_null :
  write d (Cell.null.fragments d) = "NULL"
  := write_code "NULL"

/-- A text is taken for a number only if it is a numeral, but for the blank characters around it. -/
theorem isNumeral_trimmed {s n : String} (h : (Value.text s).asNumber? = some n) :
  n = Text.trimmed s ∧ IsNumeral n.toList
  := by
  refine ⟨?_, Value.isNumeral_of_asNumber? h⟩
  rw [Value.asNumber?, Value.numberOfText?] at h
  split at h
  · rw [Option.ite_none_left_eq_some] at h
    exact (Option.some.inj h.2).symm
  · contradiction

/-- A value is written as the word for no value exactly if there is none or none that SQL can write,
and in one of the forms of its dialect and its column otherwise. -/
theorem write_ofValue_isForm (d : Dialect) (f : Field) (v : Option Value) :
  (write d ((Cell.ofValue d f.type v).fragments d) = "NULL" ↔ IsUnwritable v)
    ∧ (¬ IsUnwritable v →
      ∃ x, v = some x ∧ IsForm d f.type x (write d ((Cell.ofValue d f.type v).fragments d)))
    ∧ ∀ s n, (Value.text s).asNumber? = some n → n = Text.trimmed s ∧ IsNumeral n.toList
  := by
  have hform : ¬ IsUnwritable v →
      ∃ x, v = some x ∧ IsForm d f.type x (write d ((Cell.ofValue d f.type v).fragments d)) := by
    intro h
    obtain ⟨x, hx, hcell⟩ := exists_ofValue_of_not_isUnwritable h
    use x, hx
    rw [hcell]
    exact isForm_ofWritable
  refine ⟨⟨?_, ?_⟩, hform, fun s n => isNumeral_trimmed⟩
  · intro hnull
    by_cases h : IsUnwritable v
    · exact h
    · obtain ⟨x, -, hx⟩ := hform h
      exact absurd hnull hx.ne_null
  · intro h
    rw [ofValue_of_isUnwritable h, write_null]

/-- A number with blank characters around it, and a text that would end a list of values. -/
theorem write_ofValue_isForm_texts :
  let amount : Field := { name := "amount", type := .decimal }
  IsForm .postgreSql amount.type (.text "\u3000+.5e-3 ") "+.5e-3"
    ∧ IsForm .mySql amount.type (.text "1'); -- \\") "'1''); -- \\\\'"
  := by
  intro amount
  have hnot : ∀ s, ¬ IsUnwritable (some (.text s)) := by
    rintro s ⟨⟩
  have hnumber : write .postgreSql ((Cell.ofValue .postgreSql amount.type
      (some (.text "\u3000+.5e-3 "))).fragments .postgreSql) = "+.5e-3" := by
    decide +kernel
  have htext : write .mySql ((Cell.ofValue .mySql amount.type
      (some (.text "1'); -- \\"))).fragments .mySql) = "'1''); -- \\\\'" := by
    decide +kernel
  obtain ⟨-, hfirst, -⟩ := write_ofValue_isForm .postgreSql amount (some (.text "\u3000+.5e-3 "))
  obtain ⟨-, hsecond, -⟩ := write_ofValue_isForm .mySql amount (some (.text "1'); -- \\"))
  obtain ⟨x, hx, hfirst⟩ := hfirst (hnot _)
  obtain ⟨y, hy, hsecond⟩ := hsecond (hnot _)
  cases hx
  cases hy
  rw [hnumber] at hfirst
  rw [htext] at hsecond
  exact ⟨hfirst, hsecond⟩

end SqlScribe.Statement
