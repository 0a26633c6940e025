import SqlScribe.Proofs.Document.RoundTrip
import SqlScribe.Proofs.Json.Editing

/-!
# The dialect in the document of a table

Setting the dialect in the document of a table (`Table.setDialect`) gives the document of the table
in the dialect of the name (`ofJson_setDialect`), whatever the form of the document and wherever its
dialect stands, if it has one.  No other member depends on the dialect, so what the other members
lead to is the same draft but for the dialect.
-/

namespace SqlScribe

open Json

/-- The document with the dialect of a name. -/
def Table.setDialect (name text : String) : Except Fault String :=
  setMember TableMember.dialect.key 2 (.string name) text

/-- The draft with the dialect of a name. -/
def TableDraft.withDialect (draft : TableDraft) (name : String) : TableDraft :=
  { draft with dialect := some name }

variable {draft draft' draft'' : TableDraft} {key : String} {v p text : List Char}

/-! ### Entries -/

theorem isValue_name_iff :
  IsValue (Table.format.read .name draft) v draft'
    ↔ ∃ s, draft' = { draft with name := some s } ∧ IsValue readString v s
  := by
  apply isValue_into_iff fun s => ({ draft with name := some s } : TableDraft)
  intro s s' heq
  simpa using heq

theorem isValue_fields_iff :
  IsValue (Table.format.read .fields draft) v draft'
    ↔ ∃ fs, draft' = { draft with fields := some fs }
      ∧ IsValue (readList Field.format.readRecord) v fs
  := by
  apply isValue_into_iff fun fs => ({ draft with fields := some fs } : TableDraft)
  intro fs fs' heq
  simpa using heq

theorem isValue_dialect_iff :
  IsValue (Table.format.read .dialect draft) v draft'
    ↔ ∃ s, draft' = draft.withDialect s ∧ IsValue readString v s
  := by
  apply isValue_into_iff draft.withDialect
  intro s s' heq
  simpa [TableDraft.withDialect] using heq

/-- A value of the dialect is put into a draft that has none. -/
theorem exists_of_entry_dialect
    (h : Table.format.Entry draft TableMember.dialect.key v draft') :
  draft.dialect = none ∧ ∃ s, draft' = draft.withDialect s
  := by
  cases h with
  | unknown hfind hv =>
    rw [find?_tableMember] at hfind
    cases hfind
  | known hfind hnew hv =>
    rw [find?_tableMember] at hfind
    cases hfind
    obtain ⟨s, hs, -⟩ := isValue_dialect_iff.mp hv
    exact ⟨Option.isSome_eq_false_iff.mp hnew |> Option.isNone_iff_eq_none.mp, s, hs⟩

theorem entry_dialect (h : draft.dialect = none) {s : String} (hv : IsValue readString v s) :
  Table.format.Entry draft TableMember.dialect.key v (draft.withDialect s)
  := by
  apply Format.Entry.known (find?_tableMember .dialect)
  · change draft.dialect.isSome = false
    rw [h]
    rfl
  · apply isValue_dialect_iff.mpr
    use s

/-- A value of another key has nothing to do with the dialect. -/
theorem Json.Format.Entry.withDialect (h : Table.format.Entry draft key v draft')
    (hkey : key ≠ TableMember.dialect.key) (name : String) :
  draft'.dialect = draft.dialect
    ∧ Table.format.Entry (draft.withDialect name) key v (draft'.withDialect name)
  := by
  cases h with
  | unknown hfind hv => exact ⟨rfl, .unknown hfind hv⟩
  | @known m _ hfind hnew hv =>
    cases m with
    | name =>
      obtain ⟨s, rfl, hs⟩ := isValue_name_iff.mp hv
      exact ⟨rfl, .known hfind hnew (isValue_name_iff.mpr ⟨s, rfl, hs⟩)⟩
    | fields =>
      obtain ⟨fs, rfl, hfs⟩ := isValue_fields_iff.mp hv
      exact ⟨rfl, .known hfind hnew (isValue_fields_iff.mpr ⟨fs, rfl, hfs⟩)⟩
    | dialect =>
      have hdialect := List.find?_some hfind
      exact absurd (beq_iff_eq.mp hdialect).symm hkey

/-! ### Objects -/

/-- After the dialect has been read, the members lead to the same draft but for it. -/
theorem Json.Tail.withDialect {close : Char} (t : Tail close Table.format.Piece draft text draft')
    (h : draft.dialect.isSome) (name : String) :
  Tail close Table.format.Piece (draft.withDialect name) text (draft'.withDialect name)
  := by
  induction t with
  | close hb => apply Tail.close hb
  | next hb hp t ih =>
    obtain ⟨key, v, hmember, hentry⟩ := hp
    have hkey : key ≠ TableMember.dialect.key := by
      rintro rfl
      obtain ⟨hnone, -⟩ := exists_of_entry_dialect hentry
      rw [hnone] at h
      cases h
    obtain ⟨hsame, hentry'⟩ := hentry.withDialect hkey name
    apply Tail.next hb ⟨key, v, hmember, hentry'⟩
    apply ih
    rw [hsame]
    apply h

/-- Setting the dialect among members gives members that lead to a draft. -/
def SetsMembers (name : String) (draft : TableDraft) (content : List Char) (draft' : TableDraft) :
    Prop :=
  ∃ p text draft₁, Table.format.Piece draft p draft₁
    ∧ Tail '\x7d' Table.format.Piece draft₁ text draft'
    ∧ ∀ bound rest, content.length ≤ bound.length →
      setInMembers TableMember.dialect.key (Json.string name).compact.toList bound (content ++ rest)
        = .ok (p ++ (text ++ rest))

/-- Where the first member is the dialect, its value is replaced. -/
theorem setsMembers_of_dialect (hp : Member (IsString · TableMember.dialect.key) v p)
    (hentry : Table.format.Entry draft TableMember.dialect.key v draft')
    (t : Tail '\x7d' Table.format.Piece draft' text draft'') (name : String) :
  SetsMembers name draft (p ++ text) (draft''.withDialect name)
  := by
  obtain ⟨hnone, s, rfl⟩ := exists_of_entry_dialect hentry
  have hvalue := isValue_compact_string name
  obtain ⟨p', hp', hset⟩ :=
    exists_setInMembers_of_key hp hentry.skips (Json.string name).compact.toList
  use p', text, draft.withDialect name, ⟨_, _, hp', entry_dialect hnone hvalue⟩
  use t.withDialect rfl name
  intro bound rest hbound
  obtain ⟨e, bound, rfl, -⟩ := exists_bound hp.ne_nil hbound
  rw [List.append_assoc, hset e bound _ (t.ends (Or.inr rfl) rest)]

/-- The dialect is set wherever it stands among the members, and after them if it is not there. -/
theorem setsMembers (t : Tail '\x7d' Table.format.Piece draft' text draft'')
    (h : Table.format.Piece draft p draft') (hnone : draft.dialect = none) (name : String) :
  SetsMembers name draft (p ++ text) (draft''.withDialect name)
  := by
  have hvalue := isValue_compact_string name
  induction t generalizing draft p with
  | @close draft' b hb =>
    obtain ⟨key, v, hp, hentry⟩ := h
    by_cases hkey : key = TableMember.dialect.key
    · subst hkey
      apply setsMembers_of_dialect hp hentry (.close hb)
    · obtain ⟨hsame, -⟩ := hentry.withDialect hkey name
      have hnew := entry_dialect (hsame.trans hnone) hvalue
      use p, ',' :: (memberText TableMember.dialect.key (Json.string name).compact.toList
        ++ (b ++ ['\x7d'])), draft', ⟨key, v, hp, hentry⟩
      use .next allSpace_nil ⟨_, _, member_memberText _ _, hnew⟩ (.close hb)
      intro bound rest hbound
      obtain ⟨e, bound, rfl, -⟩ := exists_bound hp.ne_nil hbound
      rw [List.append_assoc, List.append_assoc, List.singleton_append,
        setInMembers_close hp hentry.skips hkey hb]
      simp
  | @next draft' draft₁ draft₂ b q text hb hq t ih =>
    obtain ⟨key, v, hp, hentry⟩ := h
    by_cases hkey : key = TableMember.dialect.key
    · subst hkey
      apply setsMembers_of_dialect hp hentry (.next hb hq t)
    · obtain ⟨hsame, -⟩ := hentry.withDialect hkey name
      obtain ⟨q', text', draft₁', hq', htail, hset⟩ := ih hq (hsame.trans hnone)
      use p, b ++ ',' :: (q' ++ text'), draft', ⟨key, v, hp, hentry⟩, .next hb hq' htail
      intro bound rest hbound
      obtain ⟨e, bound, rfl, hbound⟩ := exists_bound hp.ne_nil hbound
      rw [List.append_assoc, List.append_assoc, List.cons_append,
        setInMembers_comma hp hentry.skips hkey hb, hset]
      · simp [Except.map]
      · simp only [List.length_append, List.length_cons] at hbound ⊢
        omega

/-- In an object the dialect can be set. -/
theorem exists_setInObject {content : List Char}
    (h : Enclosed '\x7d' Table.format.Piece Table.format.empty content draft) (name : String) :
  ∃ content', Enclosed '\x7d' Table.format.Piece Table.format.empty content'
      (draft.withDialect name)
    ∧ ∀ rest, setInObject TableMember.dialect.key (Json.string name).compact.toList
        (content ++ rest) = .ok (content' ++ rest)
  := by
  cases h with
  | @empty b hb =>
    have hnew : Table.format.Entry Table.format.empty _ _ _ :=
      entry_dialect rfl (isValue_compact_string name)
    use memberText TableMember.dialect.key (Json.string name).compact.toList ++ (b ++ ['\x7d'])
    constructor
    · apply Format.enclosed_of_piece allSpace_nil ⟨_, _, member_memberText _ _, hnew⟩ (.close hb)
    · intro rest
      simp [setInObject, skipSpace_append_cons hb (show isSpace '\x7d' = false by decide)]
  | @items draft₁ _ b p text hb ho hp t =>
    obtain ⟨p', text', draft₁', hp', t', hset⟩ := setsMembers t (hp.append hb) rfl name
    use p' ++ text', Format.enclosed_of_piece allSpace_nil hp' t'
    intro rest
    obtain ⟨c, more, heq, hspace, hne⟩ := ho
    have hskip : skipSpace (b ++ (p ++ text) ++ rest) = c :: (more ++ rest) := by
      rw [List.append_assoc, heq, List.cons_append, skipSpace_append_cons hb hspace]
    rw [List.append_assoc] at hset
    have hedit := hset (b ++ (p ++ text) ++ rest) rest (by simp)
    unfold setInObject
    rw [hskip]
    split
    · next heq =>
      cases heq
      contradiction
    · rw [hedit, List.append_assoc]

/-! ### Arrays -/

theorem isValue_setDialect (draft : TableDraft) (name : String) :
  IsValue (Table.format.read .dialect draft) (Json.string name).compact.toList
    (draft.withDialect name)
  := by
  apply isValue_dialect_iff.mpr
  exact ⟨name, rfl, isValue_compact_string name⟩

/-- After the value of another member the dialect can be set. -/
theorem exists_setAt_one (t : Table.format.OrderedTail [.dialect] draft text draft')
    (name : String) :
  ∃ text', Table.format.OrderedTail [.dialect] draft text' (draft'.withDialect name)
    ∧ ∀ v rest, Skipped v → setAt (Json.string name).compact.toList 1 (v ++ (text ++ rest))
      = .ok (v ++ (text' ++ rest))
  := by
  have hvalue := isValue_setDialect draft name
  cases t with
  | @close _ _ b hb =>
    use ',' :: ((Json.string name).compact.toList ++ (b ++ [']']))
    use .next allSpace_nil hvalue (.close hb)
    intro v rest hv
    rw [List.append_assoc, List.singleton_append, setAt_close hv hb]
    simp
  | @next _ _ _ draft₁ _ b v text hb hv t =>
    obtain ⟨s, rfl, -⟩ := isValue_dialect_iff.mp hv
    have hends := t.ends
    cases t with
    | @close _ _ b' hb' =>
      use b ++ ',' :: ((Json.string name).compact.toList ++ (b' ++ [']']))
      use .next hb hvalue (.close hb')
      intro v' rest hv'
      rw [List.append_assoc, List.cons_append, setAt_comma hv' hb, List.append_assoc,
        setAt_zero hv.skips (hends rest)]
      simp [Except.map]

/-- In an array the dialect can be set if the name and the fields are there. -/
theorem exists_setAt {content : List Char} {t : Table} (h : Table.format.Ordered content draft)
    (hfinish : draft.finish = .ok t) (name : String) :
  ∃ content', Table.format.Ordered content' (draft.withDialect name)
    ∧ ∀ rest, setAt (Json.string name).compact.toList 2 (content ++ rest) = .ok (content' ++ rest)
  := by
  cases h with
  | empty hb => cases hfinish
  | @first _ _ _ _ b v _ hm hb ho hv t =>
    cases hm
    obtain ⟨s, rfl, -⟩ := isValue_name_iff.mp hv
    cases t with
    | close hb => cases hfinish
    | @next _ _ _ _ _ b' v' text hb' hv' t =>
      obtain ⟨text', t', hset⟩ := exists_setAt_one t name
      use b ++ (v ++ (b' ++ ',' :: (v' ++ text')))
      constructor
      · apply Format.Ordered.first rfl hb _ hv (.next hb' hv' t')
        apply (ho.of_append hv.ne_nil).append
      · intro rest
        have hsplit : b ++ (v ++ (b' ++ ',' :: (v' ++ text))) ++ rest
            = b ++ v ++ (b' ++ ',' :: (v' ++ (text ++ rest))) := by simp
        rw [hsplit, setAt_comma (hv.skips.append hb) hb', hset v' rest hv'.skips]
        simp [Except.map]

/-! ### Documents -/

theorem TableDraft.finish_withDialect {t : Table} (h : draft.finish = .ok t) (name : String) :
  (draft.withDialect name).finish = .ok (t.withDialect (Dialect.ofNameOrDefault name))
  := by
  unfold TableDraft.finish at h
  split at h
  · cases h
  · cases h
  · next hname hfields =>
    cases h
    simp [TableDraft.withDialect, TableDraft.finish, hname, hfields, Table.withDialect]

/-- Where a document holds a complete draft, the dialect can be set. -/
theorem exists_setDialect {t : Table} {a s b : List Char} (ha : AllSpace a)
    (h : Table.format.Holds s draft) (ht : text = a ++ (s ++ b)) (hfinish : draft.finish = .ok t)
    (name : String) :
  ∃ s', Table.format.Holds s' (draft.withDialect name)
    ∧ Table.setDialect name (String.ofList text) = .ok (String.ofList (a ++ (s' ++ b)))
  := by
  rw [ht]
  cases h with
  | object h =>
    obtain ⟨content', h', hset⟩ := exists_setInObject h name
    use '\x7b' :: content', .object h'
    apply setMember_of_setInObject ha (hset b)
  | array h =>
    obtain ⟨content', h', hset⟩ := exists_setAt h hfinish name
    use '[' :: content', .array h'
    apply setMember_of_setAt ha (hset b)

/-- The dialect can be set in the document of every table, and it is then that of the table in the
dialect of the name. -/
theorem ofJson_setDialect {text : String} {t : Table} (h : Table.ofJson text = .ok t)
    (name : String) :
  ∃ text', Table.setDialect name text = .ok text'
    ∧ Table.ofJson text' = .ok (t.withDialect (Dialect.ofNameOrDefault name))
  := by
  obtain ⟨draft, a, s, b, ha, hs, hb, ht, hfinish⟩ := exists_of_ofJson h
  obtain ⟨s', hs', hset⟩ := exists_setDialect ha hs ht hfinish name
  rw [String.ofList_toList] at hset
  use String.ofList (a ++ (s' ++ b)), hset
  apply ofJson_of_holds ha hs' hb String.toList_ofList (TableDraft.finish_withDialect hfinish name)

example :
    Table.setDialect "db2" "\x7b\"name\": \"t\", \"dialect\": \"pg\", \"fields\": []\x7d"
      = .ok "\x7b\"name\": \"t\", \"dialect\":\"db2\", \"fields\": []\x7d" :=
  rfl

end SqlScribe
