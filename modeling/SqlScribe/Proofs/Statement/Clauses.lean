import Mathlib.Tactic.Tauto
import SqlScribe.Statement.CreateTable

/-!
# The clauses of columns

Which clauses the column of a field has.  A clause comes from one property of the field: nulls
are rejected, the values are counted up, it is the primary key, no value may come twice, or it
has a description (`mem_clausesOf`).  The clause by which the values are counted up depends on
the dialect, and in one dialect it declares the primary key as well
(`countingClause?_eq_countedKey`).  So at most one clause of a column declares a key, and which
one it is depends on two flags of the field and on whether the key is written in the column at
all (`keyClauses_ofField`).
-/

namespace SqlScribe.Statement

variable {d : Dialect} {f : Field} {inlineKey : Bool} {c : ColumnClause}

/-- The clause by which the values of a field are counted up, if they are. -/
def countingClause? (d : Dialect) (f : Field) (inlineKey : Bool) : Option ColumnClause :=
  if f.autoIncrement then autoIncrementClause? d f inlineKey else none

theorem mem_of_countingClause? (h : countingClause? d f inlineKey = some c) :
  c ∈ [.autoIncrement, .identity, .countedKey]
  := by
  rw [countingClause?, Option.ite_none_right_eq_some] at h
  obtain ⟨-, h⟩ := h
  cases d <;> simp_all [autoIncrementClause?, Dialect.autoIncrementStrategy]

/-- Counting up declares a key in one dialect, where the key is written in the column. -/
theorem countingClause?_eq_countedKey :
  countingClause? d f inlineKey = some .countedKey
    ↔ d = .sqlite ∧ f.autoIncrement = true ∧ inlineKey = true
  := by
  rw [countingClause?, Option.ite_none_right_eq_some]
  cases d <;> simp [autoIncrementClause?, Dialect.autoIncrementStrategy]

theorem clausesOf_eq :
  clausesOf d f inlineKey = (if f.isNotNull then [.notNull] else [])
    ++ (countingClause? d f inlineKey).toList
    ++ (if f.primaryKey && inlineKey && countingClause? d f inlineKey != some .countedKey
      then [.primaryKey] else [])
    ++ (if f.unique && !f.primaryKey then [.unique] else [])
    ++ (commentClause? d f).toList
  := rfl

theorem exists_of_commentClause? (h : commentClause? d f = some c) :
  d = .mySql ∧ ∃ text, f.comment? = some text ∧ c = .comment text
  := by
  cases d with
  | mySql =>
    obtain ⟨text, htext, rfl⟩ := Option.map_eq_some_iff.mp h
    exact ⟨rfl, text, htext, rfl⟩
  | _ => contradiction

/-- Where each clause of a column comes from. -/
theorem mem_clausesOf :
  c ∈ clausesOf d f inlineKey ↔ c = .notNull ∧ f.isNotNull = true
    ∨ countingClause? d f inlineKey = some c
    ∨ c = .primaryKey ∧ f.primaryKey = true ∧ inlineKey = true
      ∧ countingClause? d f inlineKey ≠ some .countedKey
    ∨ c = .unique ∧ f.unique = true ∧ f.primaryKey = false
    ∨ commentClause? d f = some c
  := by
  rw [clausesOf_eq]
  simp only [List.mem_append, List.mem_ite_nil_right, Option.mem_toList, List.mem_singleton,
    Bool.and_eq_true, bne_iff_ne, Bool.not_eq_true']
  tauto

theorem countingClause?_ne (h : c ∉ [.autoIncrement, .identity, .countedKey]) :
  countingClause? d f inlineKey ≠ some c
  := by
  intro hc
  exact h (mem_of_countingClause? hc)

theorem commentClause?_ne (h : ∀ text, c ≠ .comment text) :
  commentClause? d f ≠ some c
  := by
  intro hc
  obtain ⟨-, text, -, hcomment⟩ := exists_of_commentClause? hc
  exact h text hcomment

/-- A column rejects nulls by one clause. -/
theorem notNull_mem_clausesOf :
  .notNull ∈ clausesOf d f inlineKey ↔ f.isNotNull = true
  := by
  have hcounting : countingClause? d f inlineKey ≠ some .notNull := countingClause?_ne (by simp)
  have hcomment : commentClause? d f ≠ some .notNull := commentClause?_ne (by simp)
  rw [mem_clausesOf]
  simp [hcounting, hcomment]

/-- A column has no value twice by one clause, unless it belongs to the primary key. -/
theorem unique_mem_clausesOf :
  .unique ∈ clausesOf d f inlineKey ↔ f.unique = true ∧ f.primaryKey = false
  := by
  have hcounting : countingClause? d f inlineKey ≠ some .unique := countingClause?_ne (by simp)
  have hcomment : commentClause? d f ≠ some .unique := commentClause?_ne (by simp)
  rw [mem_clausesOf]
  simp [hcounting, hcomment]

/-- A column has its description as a clause in one dialect. -/
theorem comment_mem_clausesOf {text : String} :
  .comment text ∈ clausesOf d f inlineKey ↔ d = .mySql ∧ f.comment? = some text
  := by
  have hcounting : countingClause? d f inlineKey ≠ some (.comment text) :=
    countingClause?_ne (by simp)
  have hcomment : commentClause? d f = some (.comment text)
      ↔ d = .mySql ∧ f.comment? = some text := by
    cases d <;> simp [commentClause?]
  rw [mem_clausesOf]
  simp [hcounting, hcomment]

/-! ### Keys -/

/-- Whether a clause declares its column as the primary key. -/
def ColumnClause.declaresKey (c : ColumnClause) : Bool :=
  c ∈ [.primaryKey, .countedKey]

/-- The clauses by which a column is declared as the primary key. -/
def Column.keyClauses (c : Column) : List ColumnClause :=
  c.clauses.filter (·.declaresKey)

/-- The clause by which the column of a field is declared as the primary key on its own. -/
def keyClauseOf (d : Dialect) (f : Field) : ColumnClause :=
  if d = .sqlite ∧ f.autoIncrement = true then .countedKey else .primaryKey

/-- Whether the column of a field is declared as the primary key if keys are written in columns:
a counted column is in one dialect, whether it is marked as a key or not. -/
def DeclaresKey (d : Dialect) (f : Field) : Prop :=
  f.primaryKey = true ∨ d = .sqlite ∧ f.autoIncrement = true

instance (d : Dialect) (f : Field) : Decidable (DeclaresKey d f) :=
  inferInstanceAs (Decidable (_ ∨ _))

/-- A column declares a key by one clause at most. -/
theorem keyClauses_ofField :
  (Column.ofField d f inlineKey).keyClauses
    = if inlineKey = true ∧ DeclaresKey d f then [keyClauseOf d f] else []
  := by
  have hnotNull : (if f.isNotNull then [ColumnClause.notNull] else []).filter (·.declaresKey)
      = [] := by
    split <;> rfl
  have hunique : (if f.unique && !f.primaryKey then [ColumnClause.unique] else []).filter
      (·.declaresKey) = [] := by
    split <;> rfl
  have hcomment : (commentClause? d f).toList.filter (·.declaresKey) = [] := by
    cases h : commentClause? d f with
    | none => rfl
    | some c =>
      obtain ⟨-, text, -, rfl⟩ := exists_of_commentClause? h
      rfl
  change (clausesOf d f inlineKey).filter _ = _
  rw [clausesOf_eq]
  simp only [List.filter_append, hnotNull, hunique, hcomment, List.nil_append, List.append_nil]
  by_cases hcounted : countingClause? d f inlineKey = some .countedKey
  · -- The clause that counts up declares the key, and there is no other one.
    obtain ⟨hd, hauto, hinline⟩ := countingClause?_eq_countedKey.mp hcounted
    have hdeclares : DeclaresKey d f := Or.inr ⟨hd, hauto⟩
    have hclause : keyClauseOf d f = .countedKey := if_pos ⟨hd, hauto⟩
    rw [hcounted]
    simp [hinline, hdeclares, hclause, ColumnClause.declaresKey]
  · have hcounting : (countingClause? d f inlineKey).toList.filter (·.declaresKey) = [] := by
      cases h : countingClause? d f inlineKey with
      | none => rfl
      | some c =>
        have hc := mem_of_countingClause? h
        simp only [List.mem_cons, List.not_mem_nil, or_false] at hc
        rcases hc with rfl | rfl | rfl
        · rfl
        · rfl
        · contradiction
    have hne : (countingClause? d f inlineKey != some .countedKey) = true :=
      bne_iff_ne.mpr hcounted
    rw [hcounting, List.nil_append, hne, Bool.and_true]
    rw [countingClause?_eq_countedKey] at hcounted
    cases inlineKey with
    | false => simp
    | true =>
      have hd : ¬ (d = .sqlite ∧ f.autoIncrement = true) := by
        rintro ⟨hd, hauto⟩
        exact hcounted ⟨hd, hauto, rfl⟩
      have hclause : keyClauseOf d f = .primaryKey := if_neg hd
      cases hkey : f.primaryKey <;> simp [DeclaresKey, hkey, hd, hclause, ColumnClause.declaresKey]

end SqlScribe.Statement
