import Mathlib.Data.List.Nodup
import Mathlib.Tactic.Use
import SqlScribe.Schema.Defect

/-!
# The first defect of a table

Several things can be wrong with a table at once, with different fields and with the same one.
`HasFault` says what is wrong with the field at a position, each fault for itself, and a table is
well formed if it has a name and a field and no field has a fault.

A table that is not well formed has one first defect: that it has no name, that it has no fields,
or the fault of highest precedence among those of the first field that has any.  The checks find
that defect and nothing else (`defect?_isFirst`).  They go through the fields with those before
at hand, so a check at a position is a check of the fault there (`fieldDefect?_eq_some_iff`), and
the checks stop at the first position that fails (`fieldsDefect?_eq_some_iff`).
-/

namespace SqlScribe

/-- The precedence among the faults of one field; the least is the highest. -/
def Defect.precedence : Defect → Nat
  | emptyTableName => 0
  | noFields _ => 1
  | emptyFieldName .. => 2
  | duplicateField .. => 3
  | nullablePrimaryKey .. => 4
  | autoIncrementType .. => 5

namespace Table

/-- What is wrong with the field at a position.  Of fields with the same name all but the first
are at fault. -/
inductive HasFault (t : Table) (i : Nat) : Defect → Prop
  | emptyName {f : Field} : t.fields[i]? = some f → Text.trimmed f.name = "" →
    HasFault t i (.emptyFieldName t.name i)
  | duplicate {f g : Field} {j : Nat} : t.fields[i]? = some f → j < i → t.fields[j]? = some g →
    g.name = f.name → HasFault t i (.duplicateField t.name f.name)
  | nullableKey {f : Field} : t.fields[i]? = some f → f.primaryKey = true → f.nullable = true →
    HasFault t i (.nullablePrimaryKey t.name f.name)
  | counted {f : Field} : t.fields[i]? = some f → f.autoIncrement = true →
    f.type.isInteger = false → HasFault t i (.autoIncrementType t.name f.name f.type)

/-- The fault has the highest precedence among those of the field at a position. -/
def IsTopFault (t : Table) (i : Nat) (d : Defect) : Prop :=
  t.HasFault i d ∧ ∀ e, t.HasFault i e → d.precedence ≤ e.precedence

/-- The defect is the one that comes first: the table has no name, or it has a name but no fields,
or it is the top fault of the first field with a fault. -/
inductive IsFirstDefect (t : Table) : Defect → Prop
  | emptyTableName : Text.trimmed t.name = "" → IsFirstDefect t .emptyTableName
  | noFields : Text.trimmed t.name ≠ "" → t.fields = [] → IsFirstDefect t (.noFields t.name)
  | fault {i : Nat} {d : Defect} : Text.trimmed t.name ≠ "" → t.IsTopFault i d →
    (∀ j < i, ∀ e, ¬ t.HasFault j e) → IsFirstDefect t d

/-- What statements are made for: a table with a name and with fields that have names of their own,
where the key is not nullable and only integers are counted up. -/
structure IsWellFormed (t : Table) : Prop where
  name : Text.trimmed t.name ≠ ""
  fields : t.fields ≠ []
  fieldNames : ∀ f ∈ t.fields, Text.trimmed f.name ≠ ""
  distinct : (t.fields.map (·.name)).Nodup
  keys : ∀ f ∈ t.fields, f.primaryKey = true → f.nullable = false
  counted : ∀ f ∈ t.fields, f.autoIncrement = true → f.type.isInteger = true

variable {t : Table} {d : Defect}

/-! ### The faults of one field -/

/-- One of the fields before a position has a given name. -/
theorem any_take_iff {fields : List Field} {i : Nat} {name : String} :
  (fields.take i).any (fun g => g.name == name) = true
    ↔ ∃ j g, j < i ∧ fields[j]? = some g ∧ g.name = name
  := by
  simp only [List.any_eq_true, beq_iff_eq, List.mem_iff_getElem?, List.getElem?_take]
  constructor
  · rintro ⟨g, ⟨j, hj⟩, hname⟩
    rw [Option.ite_none_right_eq_some] at hj
    exact ⟨j, g, hj.1, hj.2, hname⟩
  · rintro ⟨j, g, hj, hg, hname⟩
    exact ⟨g, ⟨j, by rw [if_pos hj, hg]⟩, hname⟩

/-- The faults of the field at a position are what the checks look for. -/
theorem hasFault_iff {i : Nat} {f : Field} (h : t.fields[i]? = some f) :
  t.HasFault i d
    ↔ Text.isBlankText f.name = true ∧ d = .emptyFieldName t.name i
      ∨ (t.fields.take i).any (fun g => g.name == f.name) = true ∧ d = .duplicateField t.name f.name
      ∨ (f.primaryKey && f.nullable) = true ∧ d = .nullablePrimaryKey t.name f.name
      ∨ (f.autoIncrement && !f.type.isInteger) = true
        ∧ d = .autoIncrementType t.name f.name f.type
  := by
  rw [Text.isBlankText_iff, any_take_iff, Bool.and_eq_true, Bool.and_eq_true, Bool.not_eq_true']
  constructor
  · intro hfault
    cases hfault with
    | emptyName hf hname =>
      cases h.symm.trans hf
      exact Or.inl ⟨hname, rfl⟩
    | duplicate hf hj hg hname =>
      cases h.symm.trans hf
      exact Or.inr (Or.inl ⟨⟨_, _, hj, hg, hname⟩, rfl⟩)
    | nullableKey hf hkey hnull =>
      cases h.symm.trans hf
      exact Or.inr (Or.inr (Or.inl ⟨⟨hkey, hnull⟩, rfl⟩))
    | counted hf hauto htype =>
      cases h.symm.trans hf
      exact Or.inr (Or.inr (Or.inr ⟨⟨hauto, htype⟩, rfl⟩))
  · rintro (⟨hname, rfl⟩ | ⟨⟨j, g, hj, hg, hname⟩, rfl⟩ | ⟨⟨hkey, hnull⟩, rfl⟩
      | ⟨⟨hauto, htype⟩, rfl⟩)
    · exact .emptyName h hname
    · exact .duplicate h hj hg hname
    · exact .nullableKey h hkey hnull
    · exact .counted h hauto htype

/-- A field has at most one fault of each precedence. -/
theorem IsTopFault.unique {i : Nat} {e : Defect} (hd : t.IsTopFault i d) (he : t.IsTopFault i e) :
  d = e
  := by
  have hprecedence : d.precedence = e.precedence :=
    Nat.le_antisymm (hd.2 e he.1) (he.2 d hd.1)
  cases hd.1 <;> cases he.1 <;> grind [Defect.precedence]

/-- The check of the field at a position finds the fault of highest precedence there, as each test
comes after those for the faults of higher precedence. -/
theorem isTopFault_of_fieldDefect? {i : Nat} {f : Field} (h : t.fields[i]? = some f)
    (hd : fieldDefect? t.name (t.fields.take i) f = some d) :
  t.IsTopFault i d
  := by
  have hlength : (t.fields.take i).length = i := by
    rw [List.length_take, Nat.min_eq_left]
    exact Nat.le_of_lt (List.getElem?_eq_some_iff.mp h).1
  rw [fieldDefect?, hlength] at hd
  simp only [IsTopFault, hasFault_iff h]
  grind [Defect.precedence]

theorem fieldDefect?_eq_none_iff {i : Nat} {f : Field} (h : t.fields[i]? = some f) :
  fieldDefect? t.name (t.fields.take i) f = none ↔ ∀ e, ¬ t.HasFault i e
  := by
  simp only [hasFault_iff h, fieldDefect?]
  grind

theorem fieldDefect?_eq_some_iff {i : Nat} {f : Field} (h : t.fields[i]? = some f) :
  fieldDefect? t.name (t.fields.take i) f = some d ↔ t.IsTopFault i d
  := by
  constructor
  · exact isTopFault_of_fieldDefect? h
  · intro hd
    cases he : fieldDefect? t.name (t.fields.take i) f with
    | none => exact absurd hd.1 ((fieldDefect?_eq_none_iff h).mp he d)
    | some e => rw [hd.unique (isTopFault_of_fieldDefect? h he)]

/-! ### The first field with a fault -/

/-- The checks of some fields that follow given ones stop at the first field with a defect. -/
theorem fieldsDefect?_eq_some_iff {table : String} {before fields : List Field} :
  fieldsDefect? table before fields = some d
    ↔ ∃ i f, fields[i]? = some f ∧ fieldDefect? table (before ++ fields.take i) f = some d
      ∧ ∀ j < i, ∀ g, fields[j]? = some g → fieldDefect? table (before ++ fields.take j) g = none
  := by
  induction fields generalizing before with
  | nil => simp [fieldsDefect?]
  | cons f rest ih =>
    rw [fieldsDefect?]
    cases hf : fieldDefect? table before f with
    | some e =>
      constructor
      · intro h
        cases h
        use 0, f, rfl, by simpa using hf
        intro j hj
        contradiction
      · rintro ⟨i, g, hg, hd, hbefore⟩
        cases i with
        | zero =>
          cases hg
          rw [List.take_zero, List.append_nil, hf] at hd
          exact hd
        | succ i =>
          have hnone := hbefore 0 (Nat.zero_lt_succ i) f rfl
          rw [List.take_zero, List.append_nil, hf] at hnone
          contradiction
    | none =>
      dsimp only
      rw [ih]
      constructor
      · rintro ⟨i, g, hg, hd, hbefore⟩
        use i + 1, g, hg, by simpa using hd
        intro j hj e he
        cases j with
        | zero =>
          cases he
          simpa using hf
        | succ j => simpa using hbefore j (Nat.lt_of_succ_lt_succ hj) e he
      · rintro ⟨i, g, hg, hd, hbefore⟩
        cases i with
        | zero =>
          cases hg
          rw [List.take_zero, List.append_nil, hf] at hd
          contradiction
        | succ i =>
          use i, g, hg, by simpa using hd
          intro j hj e he
          simpa using hbefore (j + 1) (Nat.succ_lt_succ hj) e he

/-- No field has a defect, given those before it. -/
theorem fieldsDefect?_eq_none_iff {table : String} {before fields : List Field} :
  fieldsDefect? table before fields = none
    ↔ ∀ i f, fields[i]? = some f → fieldDefect? table (before ++ fields.take i) f = none
  := by
  induction fields generalizing before with
  | nil => simp [fieldsDefect?]
  | cons f rest ih =>
    rw [fieldsDefect?]
    constructor
    · intro h i g hg
      split at h
      · contradiction
      next hf =>
      cases i with
      | zero =>
        cases hg
        simpa using hf
      | succ i => simpa using ih.mp h i g hg
    · intro h
      have hf : fieldDefect? table before f = none := by simpa using h 0 f rfl
      rw [hf]
      apply ih.mpr
      intro i g hg
      simpa using h (i + 1) g hg

/-! ### Tables -/

theorem HasFault.exists_field {i : Nat} (h : t.HasFault i d) :
  ∃ f, t.fields[i]? = some f
  := by
  cases h with
  | emptyName hf _ => exact ⟨_, hf⟩
  | duplicate hf _ _ _ => exact ⟨_, hf⟩
  | nullableKey hf _ _ => exact ⟨_, hf⟩
  | counted hf _ _ => exact ⟨_, hf⟩

/-- The fields of a table have no defect if none of them has a fault. -/
theorem fieldsDefect?_fields_eq_none_iff :
  fieldsDefect? t.name [] t.fields = none ↔ ∀ i e, ¬ t.HasFault i e
  := by
  rw [fieldsDefect?_eq_none_iff]
  constructor
  · intro h i e he
    obtain ⟨f, hf⟩ := he.exists_field
    exact (fieldDefect?_eq_none_iff hf).mp (h i f hf) e he
  · intro h i f hf
    exact (fieldDefect?_eq_none_iff hf).mpr (h i)

/-- The first defect of the fields of a table is the top fault of the first field with a fault. -/
theorem fieldsDefect?_fields_eq_some_iff :
  fieldsDefect? t.name [] t.fields = some d
    ↔ ∃ i, t.IsTopFault i d ∧ ∀ j < i, ∀ e, ¬ t.HasFault j e
  := by
  rw [fieldsDefect?_eq_some_iff]
  constructor
  · rintro ⟨i, f, hf, hd, hbefore⟩
    use i, (fieldDefect?_eq_some_iff hf).mp hd
    intro j hj e he
    obtain ⟨g, hg⟩ := he.exists_field
    exact (fieldDefect?_eq_none_iff hg).mp (hbefore j hj g hg) e he
  · rintro ⟨i, hd, hbefore⟩
    obtain ⟨f, hf⟩ := hd.1.exists_field
    use i, f, hf, (fieldDefect?_eq_some_iff hf).mpr hd
    intro j hj g hg
    exact (fieldDefect?_eq_none_iff hg).mpr (hbefore j hj)

/-- A table is well formed if it has a name and a field, and no field has a fault. -/
theorem isWellFormed_iff :
  t.IsWellFormed
    ↔ Text.trimmed t.name ≠ "" ∧ t.fields ≠ [] ∧ ∀ i e, ¬ t.HasFault i e
  := by
  constructor
  · intro h
    use h.name, h.fields
    intro i e he
    cases he with
    | emptyName hf hname => exact h.fieldNames _ (List.mem_of_getElem? hf) hname
    | @duplicate f g j hf hj hg hname =>
      obtain ⟨hi, rfl⟩ := List.getElem?_eq_some_iff.mp hf
      obtain ⟨hj', rfl⟩ := List.getElem?_eq_some_iff.mp hg
      have hne := List.pairwise_iff_getElem.mp h.distinct j i (by simpa) (by simpa) hj
      simp [hname] at hne
    | nullableKey hf hkey hnull =>
      have hnullable := h.keys _ (List.mem_of_getElem? hf) hkey
      rw [hnull] at hnullable
      contradiction
    | counted hf hauto htype =>
      have hinteger := h.counted _ (List.mem_of_getElem? hf) hauto
      rw [htype] at hinteger
      contradiction
  · rintro ⟨hname, hfields, hfault⟩
    refine ⟨hname, hfields, ?_, ?_, ?_, ?_⟩
    · intro f hf hblank
      obtain ⟨i, hi⟩ := List.mem_iff_getElem?.mp hf
      exact hfault i _ (.emptyName hi hblank)
    · apply List.pairwise_iff_getElem.mpr
      intro j i hj hi hlt heq
      rw [List.length_map] at hj hi
      rw [List.getElem_map, List.getElem_map] at heq
      exact hfault i _
        (.duplicate (List.getElem?_eq_getElem hi) hlt (List.getElem?_eq_getElem hj) heq)
    · intro f hf hkey
      obtain ⟨i, hi⟩ := List.mem_iff_getElem?.mp hf
      by_contra hnull
      exact hfault i _ (.nullableKey hi hkey (by simpa using hnull))
    · intro f hf hauto
      obtain ⟨i, hi⟩ := List.mem_iff_getElem?.mp hf
      by_contra htype
      exact hfault i _ (.counted hi hauto (by simpa using htype))

theorem defect?_eq_none_iff :
  t.defect? = none ↔ t.IsWellFormed
  := by
  rw [isWellFormed_iff, ← fieldsDefect?_fields_eq_none_iff, ne_eq, ← Text.isBlankText_iff, ne_eq,
    ← List.isEmpty_iff, defect?]
  split
  · simp [*]
  · split <;> simp [*]

/-- The fields of a table without a defect have different names. -/
theorem nodup_names (h : t.defect? = none) :
  (t.fields.map (·.name)).Nodup
  := (defect?_eq_none_iff.mp h).distinct

theorem defect?_eq_some_iff :
  t.defect? = some d ↔ t.IsFirstDefect d
  := by
  rw [defect?]
  constructor
  · intro h
    split at h
    · next hname =>
      cases h
      exact .emptyTableName (Text.isBlankText_iff.mp hname)
    next hname =>
    rw [Text.isBlankText_iff] at hname
    split at h
    · next hfields =>
      cases h
      exact .noFields hname (List.isEmpty_iff.mp hfields)
    · obtain ⟨i, hd, hbefore⟩ := fieldsDefect?_fields_eq_some_iff.mp h
      exact .fault hname hd hbefore
  · intro h
    cases h with
    | emptyTableName hname => rw [if_pos (Text.isBlankText_iff.mpr hname)]
    | noFields hname hfields =>
      rw [if_neg (mt Text.isBlankText_iff.mp hname), if_pos (List.isEmpty_iff.mpr hfields)]
    | fault hname hd hbefore =>
      obtain ⟨f, hf⟩ := hd.1.exists_field
      have hfields : t.fields ≠ [] := List.ne_nil_of_mem (List.mem_of_getElem? hf)
      rw [if_neg (mt Text.isBlankText_iff.mp hname), if_neg (mt List.isEmpty_iff.mp hfields)]
      exact fieldsDefect?_fields_eq_some_iff.mpr ⟨_, hd, hbefore⟩

/-- Where names are different, each field is found by its name. -/
theorem field?_getElem (h : (t.fields.map (·.name)).Nodup) {i : Nat} (hi : i < t.fields.length) :
  t.field? t.fields[i].name = some t.fields[i]
  := by
  rw [field?, List.find?_eq_some_iff_getElem]
  refine ⟨beq_self_eq_true _, i, hi, rfl, ?_⟩
  intro j hj
  have hne := List.pairwise_iff_getElem.mp h j i (by simp; omega) (by simpa) hj
  simpa using hne

/-- The checks find nothing wrong with a table if and only if it is well formed, and otherwise they
find its first defect.  In a table that passes them, each field is found by its name. -/
theorem defect?_isFirst (t : Table) :
  (t.defect? = none ↔ t.IsWellFormed)
    ∧ (∀ d, t.defect? = some d ↔ t.IsFirstDefect d)
    ∧ (t.defect? = none →
      ∀ (i : Nat) (h : i < t.fields.length), t.field? t.fields[i].name = some t.fields[i])
  := by
  use defect?_eq_none_iff, fun d => defect?_eq_some_iff
  intro h i hi
  exact field?_getElem (nodup_names h) hi

/-- A nullable key of texts that are counted up comes before a repeated and a blank name. -/
theorem defect?_isFirst_nullableKey :
  let t : Table :=
    { name := " t "
      fields := [{ name := "a", type := .int, autoIncrement := true },
        { name := "A", type := .text, primaryKey := true, autoIncrement := true },
        { name := "a", type := .int }, { name := "\u2003", type := .int }] }
  t.IsFirstDefect (.nullablePrimaryKey " t " "A")
    ∧ ({ t with fields := t.fields.take 1 } : Table).field? "a" = t.fields[0]?
  := by
  intro t
  obtain ⟨-, hfirst, -⟩ := defect?_isFirst t
  obtain ⟨-, -, hfound⟩ := defect?_isFirst { t with fields := t.fields.take 1 }
  exact ⟨(hfirst _).mp (by decide), hfound (by decide) 0 (by decide)⟩

end Table

end SqlScribe
