import SqlScribe.Document.Table
import SqlScribe.Proofs.Json.Records

/-!
# Members of fields and tables that are read

Whatever is read as a member of a field or of a table is a value for its reader, and so are whole
fields and tables.
-/

namespace SqlScribe

open Json

variable {α δ : Type} {read : Reader α} {put : α → δ} {v : List Char} {x : α}

/-! ### Readers -/

theorem isValue_into (h : IsValue read v x) (put : α → δ) :
  IsValue (readInto read put) v (put x)
  where
  reads := by
    intro rest hrest
    rw [readInto, h.reads rest hrest]
    rfl
  skips := h.skips

theorem takesValues_into (h : TakesValues read) (put : α → δ) :
  TakesValues (readInto read put)
  := by
  intro text y rest hread
  obtain ⟨⟨x, after⟩, hvalue, heq⟩ := map_eq_ok_iff.mp hread
  cases heq
  obtain ⟨s, ht, hs⟩ := h _ _ _ hvalue
  exact ⟨s, ht, isValue_into hs put⟩

/-- A value of a member is put into a draft that lacks the member. -/
theorem entry_of_put {M D : Type} {format : Format M D α} {m : M} {key : String}
    (hkey : (format.members.find? fun m' => format.key m' == key) = some m)
    (put : Option δ → D) {read : Reader δ} {x : δ} (hnew : format.has (put none) m = false)
    (hread : format.read m (put none) = readInto read fun x => put (some x))
    (hv : IsValue read v x) :
  format.Entry (put none) key v (put (some x))
  := by
  apply Format.Entry.known hkey hnew
  rw [hread]
  apply isValue_into hv fun x => put (some x)

/-- A value that is read into a draft is a value for the reader. -/
theorem isValue_into_iff (put : α → δ) (hput : Function.Injective put) {y : δ} :
  IsValue (readInto read put) v y ↔ ∃ x, y = put x ∧ IsValue read v x
  := by
  constructor
  · intro h
    obtain ⟨⟨x, after⟩, -, heq⟩ := map_eq_ok_iff.mp (h.reads [] ends_nil)
    cases heq
    use x, rfl
    constructor
    · intro rest hrest
      obtain ⟨⟨x', after'⟩, hread, heq⟩ := map_eq_ok_iff.mp (h.reads rest hrest)
      rw [Prod.mk.injEq] at heq
      obtain ⟨hx, rfl⟩ := heq
      rw [hread, hput hx]
    · apply h.skips
  · rintro ⟨x, rfl, hx⟩
    apply isValue_into hx put

theorem isValue_columnType {t : ColumnType} {name : String} (h : IsValue readString v name)
    (ht : ColumnType.ofName name = .ok t) :
  IsValue readColumnType v t
  where
  reads := by
    intro rest hrest
    rw [readColumnType, h.reads rest hrest]
    simp only [bind, Except.bind, ht, pure, Except.pure]
  skips := h.skips

theorem takesValues_columnType :
  TakesValues readColumnType
  := by
  intro text t rest h
  rw [readColumnType, bind_eq_ok_iff] at h
  obtain ⟨⟨name, after⟩, hread, h⟩ := h
  dsimp only at h
  split at h
  · next type ht =>
    cases h
    obtain ⟨s, hs, hvalue⟩ := takesValues_string _ _ _ hread
    exact ⟨s, hs, isValue_columnType hvalue ht⟩
  · cases h

/-! ### Fields and tables -/

theorem takesValues_fieldMember (m : FieldMember) (draft : FieldDraft) :
  TakesValues (Field.format.read m draft)
  := by
  have hword := takesValues_option ignoresSpace_word takesValues_word
  have htext := takesValues_option ignoresSpace_string takesValues_string
  cases m <;> simp only [Field.format, FieldDraft.read]
  case name => apply takesValues_into takesValues_string
  case type => apply takesValues_into takesValues_columnType
  case length => apply takesValues_into hword
  case scale => apply takesValues_into hword
  case nullable => apply takesValues_into takesValues_bool
  case primaryKey => apply takesValues_into takesValues_bool
  case unique => apply takesValues_into takesValues_bool
  case autoIncrement => apply takesValues_into takesValues_bool
  case description => apply takesValues_into htext

theorem takesValues_tableMember (m : TableMember) (draft : TableDraft) :
  TakesValues (Table.format.read m draft)
  := by
  have hfields := takesValues_list (Format.takesValues_record takesValues_fieldMember)
  cases m <;> simp only [Table.format, TableDraft.read]
  case name => apply takesValues_into takesValues_string
  case fields => apply takesValues_into hfields
  case dialect => apply takesValues_into takesValues_string

/-- A member is found by its key. -/
theorem find?_fieldMember (m : FieldMember) :
  (Field.format.members.find? fun m' => Field.format.key m' == m.key) = some m
  := by
  cases m <;> decide

theorem find?_tableMember (m : TableMember) :
  (Table.format.members.find? fun m' => Table.format.key m' == m.key) = some m
  := by
  cases m <;> decide

/-! ### Documents -/

/-- A document that holds a complete draft between blank characters is that of its table. -/
theorem ofJson_of_holds {text : String} {draft : TableDraft} {t : Table} {a b s : List Char}
    (ha : AllSpace a) (h : Table.format.Holds s draft) (hb : AllSpace b)
    (ht : text.toList = a ++ (s ++ b)) (hfinish : draft.finish = .ok t) :
  Table.ofJson text = .ok t
  := by
  have hrecord : Table.format.finish draft = .ok t := hfinish
  have hread : Table.format.readDraft text.toList = ⟨draft, .ok b⟩ := by
    rw [ht, Format.readDraft_append ha, h.reads hrecord]
  simp only [Table.ofJson, Table.readDocument, hread, Format.finishDraft, hrecord, bind,
    Except.bind, pure, Except.pure, readEnd_of_allSpace hb]

/-- The document of a table holds a complete draft of it between blank characters. -/
theorem exists_of_ofJson {text : String} {t : Table} (h : Table.ofJson text = .ok t) :
  ∃ draft a s b, AllSpace a ∧ Table.format.Holds s draft ∧ AllSpace b
    ∧ text.toList = a ++ (s ++ b) ∧ draft.finish = .ok t
  := by
  rw [Table.ofJson, Table.readDocument, bind_eq_ok_iff] at h
  obtain ⟨⟨t', rest⟩, hfinish, h⟩ := h
  obtain ⟨_, hend, h⟩ := bind_eq_ok_iff.mp h
  cases h
  rw [Format.finishDraft, bind_eq_ok_iff] at hfinish
  obtain ⟨after, hleft, hrecord⟩ := hfinish
  split at hrecord
  · next record hfinish =>
    cases hrecord
    obtain ⟨s, hs, hholds⟩ := Format.exists_of_readDraft takesValues_tableMember (eq_of_left hleft)
    obtain ⟨a, ha, ht⟩ := exists_skipSpace text.toList
    rw [hs] at ht
    use (Table.format.readDraft text.toList).state, a, s, rest
    exact ⟨ha, hholds, allSpace_of_readEnd hend, ht, hfinish⟩
  · cases hrecord

end SqlScribe
