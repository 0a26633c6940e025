import SqlScribe.Proofs.Document.Values

/-!
# Documents that are read back

What is written for a table is read as the same table (`Table.ofJson_toJson`).  The text of every
part of the document is a value for the reader of the part, and the members of a record lead from
the empty draft to a draft with all that the record says; a member that is left out leaves in
the draft what finishing it gives to the record.
-/

namespace SqlScribe

open Json

/-! ### Parts of documents -/

theorem isValue_compact_string (x : String) :
  IsValue readString (Json.string x).compact.toList x
  := by
  obtain ⟨k, hk, hx⟩ := isString_written x
  rw [Json.compact, hk]
  apply isValue_string hx

theorem isValue_compact_boolean (b : Bool) :
  IsValue readBool (Json.boolean b).compact.toList b
  := by
  cases b with
  | true => apply isValue_true
  | false => apply isValue_false

theorem isValue_compact_columnType (t : ColumnType) :
  IsValue readColumnType (Json.string t.name).compact.toList t
  := by
  apply isValue_columnType (isValue_compact_string t.name)
  cases t <;> decide

/-- What is written for a word is a number, and it is read as the word. -/
theorem isValue_compact_word (n : UInt32) :
  (∃ c ∈ (Json.natural n.toNat).compact.toList.head?, c = '-' ∨ c.isDigit = true)
    ∧ IsValue readWord (Json.natural n.toNat).compact.toList n
  := by
  have hn : n.toNat < UInt32.size := n.toNat_lt_size
  have hread := readNumber_natural (Nat.lt_trans hn (by decide)) [] ends_nil
  obtain ⟨s, hs, hhead, hreads, hskip⟩ := exists_of_readNumber hread
  rw [List.append_nil, List.append_nil] at hs
  rw [Json.compact, hs]
  have hvalue := isValue_word hhead hreads hskip ⟨by omega, by exact_mod_cast hn⟩
  rw [Int.toNat_natCast, UInt32.ofNat_toNat] at hvalue
  exact ⟨hhead, hvalue⟩

theorem isValue_compact_someWord (n : UInt32) :
  IsValue (readOption readWord) (Json.natural n.toNat).compact.toList (some n)
  := by
  obtain ⟨⟨c, hc, hnumber⟩, hvalue⟩ := isValue_compact_word n
  apply isValue_some hvalue
  intro d hd
  obtain rfl := Option.mem_unique hc hd
  obtain ⟨hspace, -, hn, -⟩ := ne_of_number hnumber
  exact ⟨hspace, hn⟩

theorem isValue_compact_someString (x : String) :
  IsValue (readOption readString) (Json.string x).compact.toList (some x)
  := by
  apply isValue_some (isValue_compact_string x)
  rw [Json.compact, writeText, String.toList_ofList]
  rintro c hc
  cases hc
  decide

/-! ### Arrays and objects -/

/-- A member as it is written. -/
def compactMember (m : String × Json) : List Char :=
  memberText m.1 m.2.compact.toList

theorem toList_compactElements (es : List Json) :
  (compactElements es).toList = [','].intercalate (es.map fun e => e.compact.toList)
  := by
  induction es with
  | nil => rfl
  | cons e es ih =>
    cases es with
    | nil => rw [compactElements, List.map_singleton, List.intercalate_singleton]
    | cons e' es =>
      simp only [List.map_cons] at ih ⊢
      rw [compactElements, String.toList_append, String.toList_append, ih,
        List.intercalate_cons_cons]
      · rfl
      · simp

theorem toList_compactMembers (ms : List (String × Json)) :
  (compactMembers ms).toList = [','].intercalate (ms.map compactMember)
  := by
  induction ms with
  | nil => rfl
  | cons m ms ih =>
    cases ms with
    | nil =>
      rw [compactMembers, List.map_singleton, List.intercalate_singleton]
      simp [compactMember, memberText]
    | cons m' ms =>
      simp only [List.map_cons] at ih ⊢
      rw [compactMembers, String.toList_append, ih, List.intercalate_cons_cons]
      · simp [compactMember, memberText]
      · simp

variable {M D α : Type} {format : Format M D α} {draft draft' : D} {key : String} {e : Json}
  {ms : List (String × Json)} {read : Reader α} {write : α → Json}

/-- A member that is written leads to the next draft. -/
theorem piece_compactMember (h : format.Entry draft key e.compact.toList draft') :
  format.Piece draft (compactMember (key, e)) draft'
  := by
  use key, e.compact.toList, member_memberText key _

/-- A member that is written is put into a draft that lacks it. -/
theorem piece_of_put {β : Type} {read : Reader β} {m : M}
    (hkey : (format.members.find? fun m' => format.key m' == key) = some m)
    (put : Option β → D) {x : β} (hnew : format.has (put none) m = false)
    (hread : format.read m (put none) = readInto read fun x => put (some x))
    (hv : IsValue read e.compact.toList x) :
  format.Piece (put none) (compactMember (key, e)) (put (some x))
  := piece_compactMember (entry_of_put hkey put hnew hread hv)

/-- An object that is written holds the draft to which its members lead. -/
theorem holds_compact_object
    (h : Chain format.Piece format.empty (ms.map compactMember) draft) :
  format.Holds (Json.object ms).compact.toList draft
  := by
  have hcontent := h.enclosed '\x7d' (by
    intro p hp
    obtain ⟨m, -, rfl⟩ := List.mem_map.mp hp
    rw [compactMember, memberText, writeText, String.toList_ofList]
    exact ⟨_, _, rfl, by decide, by decide⟩)
  rw [← toList_compactMembers] at hcontent
  have hholds := Format.Holds.object hcontent
  rw [Json.compact]
  simpa using hholds

/-- An array that is written is read as the list of its elements. -/
theorem isValue_compact_array (xs : List α)
    (h : ∀ x ∈ xs, IsValue read (write x).compact.toList x)
    (ho : ∀ x ∈ xs, Opens ']' (write x).compact.toList) :
  IsValue (readList read) (Json.array (xs.map write)).compact.toList xs
  := by
  have hcontent := (chain_element xs [] h).enclosed ']' (by
    intro p hp
    obtain ⟨x, hx, rfl⟩ := List.mem_map.mp hp
    apply ho x hx)
  have hvalue := isValue_list hcontent
  rw [List.append_nil, List.reverse_reverse] at hvalue
  rw [Json.compact, String.toList_append, String.toList_append, toList_compactElements,
    List.map_map]
  apply hvalue

/-! ### Fields -/

/-- The draft of a field that has been written. -/
def Field.toDraft (f : Field) : FieldDraft where
  name := some f.name
  type := some f.type
  length := f.length.map some
  scale := f.scale.map some
  nullable := some f.nullable
  primaryKey := some f.primaryKey
  unique := some f.unique
  autoIncrement := some f.autoIncrement
  description := f.description.map some

theorem Field.finish_toDraft (f : Field) :
  f.toDraft.finish = .ok f
  := by
  obtain ⟨name, type, length, scale, nullable, primaryKey, unique, autoIncrement, description⟩ := f
  cases length <;> cases scale <;> cases description <;> rfl

/-- A member that can be left out is put into the draft if it is written. -/
theorem chain_optionalMember (m : FieldMember) (put : Option (Option α) → FieldDraft)
    {o : Option α} (hnew : (put none).has m = false)
    (hread : FieldDraft.read m (put none) = readInto (readOption read) fun x => put (some x))
    (hv : ∀ x, IsValue (readOption read) (write x).compact.toList (some x)) :
  Chain Field.format.Piece (put none)
    ((o.map fun x => (m.key, write x)).toList.map compactMember) (put (o.map some))
  := by
  cases o with
  | none => apply Chain.nil
  | some x =>
    apply Chain.cons _ Chain.nil
    apply piece_of_put (find?_fieldMember m) put hnew hread (hv x)

/-- The members of a field lead to its draft. -/
theorem chain_fieldMembers (f : Field) :
  Chain Field.format.Piece Field.format.empty (f.members.map compactMember) f.toDraft
  := by
  have hname := piece_of_put (find?_fieldMember .name) (fun s => { name := s }) rfl rfl
    (isValue_compact_string f.name)
  have htype := piece_of_put (find?_fieldMember .type)
    (fun t => { name := some f.name, type := t }) rfl rfl (isValue_compact_columnType f.type)
  have hlength := chain_optionalMember .length
    (fun n => { name := some f.name, type := some f.type, length := n }) (o := f.length) rfl rfl
    isValue_compact_someWord
  have hscale := chain_optionalMember .scale
    (fun n =>
      { name := some f.name, type := some f.type, length := f.length.map some, scale := n })
    (o := f.scale) rfl rfl isValue_compact_someWord
  have hnullable := piece_of_put (find?_fieldMember .nullable)
    (fun b =>
      { f.toDraft with
        nullable := b, primaryKey := none, unique := none, autoIncrement := none
        description := none })
    rfl rfl (isValue_compact_boolean f.nullable)
  have hprimaryKey := piece_of_put (find?_fieldMember .primaryKey)
    (fun b =>
      { f.toDraft with
        primaryKey := b, unique := none, autoIncrement := none, description := none })
    rfl rfl (isValue_compact_boolean f.primaryKey)
  have hunique := piece_of_put (find?_fieldMember .unique)
    (fun b => { f.toDraft with unique := b, autoIncrement := none, description := none })
    rfl rfl (isValue_compact_boolean f.unique)
  have hautoIncrement := piece_of_put (find?_fieldMember .autoIncrement)
    (fun b => { f.toDraft with autoIncrement := b, description := none })
    rfl rfl (isValue_compact_boolean f.autoIncrement)
  have hdescription := chain_optionalMember .description
    (fun s => { f.toDraft with description := s }) (o := f.description) rfl rfl
    isValue_compact_someString
  have hrequired := Chain.cons hname (.cons htype .nil)
  have hflags := Chain.cons hnullable
    (.cons hprimaryKey (.cons hunique (.cons hautoIncrement .nil)))
  rw [Field.members]
  simp only [List.map_append]
  exact (((hrequired.append hlength).append hscale).append hflags).append hdescription

/-- What is written for a field is read as the field. -/
theorem isValue_compact_field (f : Field) :
  IsValue Field.format.readRecord f.toJson.compact.toList f
  := (holds_compact_object (chain_fieldMembers f)).isValue f.finish_toDraft

/-! ### Tables -/

/-- The draft of a table that has been written. -/
def Table.toDraft (t : Table) : TableDraft where
  name := some t.name
  fields := some t.fields
  dialect := some t.dialect.name

theorem Table.finish_toDraft (t : Table) :
  t.toDraft.finish = .ok t
  := by
  obtain ⟨name, fields, dialect⟩ := t
  have hdialect : Dialect.ofNameOrDefault dialect.name = dialect := by cases dialect <;> decide
  simp [Table.toDraft, TableDraft.finish, hdialect]

/-- What is written for a table holds its draft. -/
theorem holds_compact_table (t : Table) :
  Table.format.Holds t.toJson.compact.toList t.toDraft
  := by
  have hfields := isValue_compact_array t.fields (fun f _ => isValue_compact_field f) (by
    intro f _
    rw [Field.toJson, Json.compact, String.toList_append, String.toList_append]
    exact ⟨_, _, rfl, by decide, by decide⟩)
  apply holds_compact_object
  apply Chain.cons (piece_of_put (find?_tableMember .name) (fun s => { name := s }) rfl rfl
    (isValue_compact_string t.name))
  apply Chain.cons (piece_of_put (find?_tableMember .fields)
    (fun fs => { name := some t.name, fields := fs }) rfl rfl hfields)
  apply Chain.cons (piece_of_put (find?_tableMember .dialect)
    (fun s => { name := some t.name, fields := some t.fields, dialect := s }) rfl rfl
    (isValue_compact_string t.dialect.name))
  apply Chain.nil

/-- What is written for a table is read as the same table. -/
theorem Table.ofJson_toJson (t : Table) :
  Table.ofJson t.toJson.compact = .ok t
  := by
  apply ofJson_of_holds allSpace_nil (holds_compact_table t) allSpace_nil _ t.finish_toDraft
  rw [List.append_nil, List.nil_append]

end SqlScribe
