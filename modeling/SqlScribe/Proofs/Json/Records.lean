import SqlScribe.Json.Record
import SqlScribe.Proofs.Json.Values

/-!
# Records of JSON that are read

What the reader of a record takes off a text.  A text holds a draft (`Format.Holds`) in one of two
forms.  As an object it consists of members that lead from the empty draft to it
(`Format.Piece`), where a member either is passed over or has a value for a member of the record
that the draft does not have yet (`Format.Entry`).  As an array it gives values for the first
members of the record in order.  A text that holds a complete draft is a value for the reader of
the record, and whatever that reader has taken off a text is one (`takesValues_record`).
-/

namespace SqlScribe.Json.Format

variable {M D α : Type} {format : Format M D α} {draft draft' : D} {key : String}
  {c p v text rest : List Char}

/-! ### Objects -/

/-- A value of a key leads from one draft to another. -/
inductive Entry (format : Format M D α) (draft : D) (key : String) (v : List Char) : D → Prop
  /-- The key has no meaning, and the draft stays as it is. -/
  | unknown (hkey : (format.members.find? fun m => format.key m == key) = none)
    (hv : Skipped v) : Entry format draft key v draft
  /-- The key is that of a member that the draft does not have. -/
  | known {m : M} {draft' : D} (hkey : (format.members.find? fun m => format.key m == key) = some m)
    (hnew : format.has draft m = false) (hv : IsValue (format.read m draft) v draft') :
    Entry format draft key v draft'

theorem Entry.skips (h : format.Entry draft key v draft') :
  Skipped v
  := by
  cases h with
  | unknown hkey hv => apply hv
  | known hkey hnew hv => apply hv.skips

theorem readMember_of_isValue {m : M} (hv : IsValue (format.read m draft) v draft')
    (hrest : Ends rest) :
  format.readMember m draft (v ++ rest) = ⟨draft', .ok rest⟩
  := by
  rw [readMember, hv.reads rest hrest]

theorem Entry.reads (h : format.Entry draft key v draft') (hc : AllSpace c) (hrest : Ends rest) :
  format.readKeyed draft key (c ++ ':' :: (v ++ rest)) = ⟨draft', .ok rest⟩
  := by
  cases h with
  | unknown hkey hv =>
    simp only [readKeyed, hkey, readColon_append hc, Except.bind, hv.skipValue hrest]
  | known hkey hnew hv =>
    simp [readKeyed, hkey, hnew, readColon_append hc, readMember_of_isValue hv hrest]

theorem exists_of_readMember {m : M} (h : TakesValues (format.read m draft))
    (hread : format.readMember m draft text = ⟨draft', .ok rest⟩) :
  ∃ v, text = v ++ rest ∧ IsValue (format.read m draft) v draft'
  := by
  unfold readMember at hread
  split at hread
  · next next after hm =>
    cases hread
    apply h _ _ _ hm
  · cases hread

/-- What is read for a key is a colon and a value of the key. -/
theorem exists_of_readKeyed (h : ∀ m draft, TakesValues (format.read m draft))
    (hread : format.readKeyed draft key text = ⟨draft', .ok rest⟩) :
  ∃ c v, AllSpace c ∧ text = c ++ ':' :: (v ++ rest) ∧ format.Entry draft key v draft'
  := by
  unfold readKeyed at hread
  split at hread
  · next hkey =>
    rw [Progress.mk.injEq] at hread
    obtain ⟨rfl, hleft⟩ := hread
    obtain ⟨after, hcolon, hskip⟩ := bind_eq_ok_iff.mp hleft
    obtain ⟨c, hc, rfl⟩ := exists_of_readColon hcolon
    obtain ⟨v, rfl, hv⟩ := exists_of_skipNested hskip
    use c, v, hc, rfl, .unknown hkey hv
  · next m hkey =>
    split at hread
    · cases hread
    · next hnew =>
      split at hread
      · cases hread
      · next after hcolon =>
        obtain ⟨c, hc, rfl⟩ := exists_of_readColon hcolon
        obtain ⟨v, rfl, hv⟩ := exists_of_readMember (h m draft) hread
        use c, v, hc, rfl, .known hkey (eq_false_of_ne_true hnew) hv

/-- A member of an object leads from one draft to another. -/
def Piece (format : Format M D α) (draft : D) (p : List Char) (draft' : D) : Prop :=
  ∃ key v, Member (IsString · key) v p ∧ format.Entry draft key v draft'

theorem Piece.takes (h : format.Piece draft p draft') :
  StepTakes (memberStep readText format.readKeyed) draft p draft'
  := by
  obtain ⟨key, v, hp, hentry⟩ := h
  obtain ⟨c, hc, hstep⟩ := hp.memberStep (fun k hk => hk.reads) format.readKeyed draft
  intro rest hrest
  rw [hstep, hentry.reads hc hrest]

theorem Piece.ne_nil (h : format.Piece draft p draft') :
  p ≠ []
  := by
  obtain ⟨key, v, hp, -⟩ := h
  apply hp.ne_nil

theorem Piece.append {b : List Char} (hb : AllSpace b) (h : format.Piece draft p draft') :
  format.Piece draft (b ++ p) draft'
  := by
  obtain ⟨key, v, @⟨b', k, c, hb', hk, hc⟩, hentry⟩ := h
  have hmember : Member (IsString · key) v _ := .mk (hb.append hb') hk hc
  rw [List.append_assoc] at hmember
  exact ⟨key, v, hmember, hentry⟩

/-- The first member of an object can stand after blank characters. -/
theorem enclosed_of_piece {b : List Char} {draft'' : D} (hb : AllSpace b)
    (h : format.Piece draft p draft') (t : Tail '\x7d' format.Piece draft' text draft'') :
  Enclosed '\x7d' format.Piece draft (b ++ (p ++ text)) draft''
  := by
  obtain ⟨key, v, @⟨b', k, c, hb', hk, hc⟩, hentry⟩ := h
  have hfirst : Opens '\x7d' ('"' :: (k ++ (c ++ ':' :: v)) ++ text) := by
    use '"', k ++ (c ++ ':' :: v) ++ text, rfl
    decide
  have hitems := Enclosed.items (hb.append hb') hfirst
    ⟨key, v, .mk allSpace_nil hk hc, hentry⟩ t
  simpa using hitems

theorem takesOnly_piece (h : ∀ m draft, TakesValues (format.read m draft)) :
  TakesOnly (memberStep readText format.readKeyed) format.Piece
  := by
  apply takesOnly_memberStep (fun _ _ _ => isString_of_readText)
  intro draft key text draft' rest hstep
  apply exists_of_readKeyed h hstep

/-! ### Arrays -/

/-- The rest of an array that gives the given members in order, after a value in it. -/
inductive OrderedTail (format : Format M D α) : List M → D → List Char → D → Prop
  /-- The array ends, and the other members are left out. -/
  | close {members : List M} {draft : D} {b : List Char} (hb : AllSpace b) :
    OrderedTail format members draft (b ++ [']']) draft
  /-- The next member follows. -/
  | next {m : M} {members : List M} {draft draft' draft'' : D} {b v text : List Char}
    (hb : AllSpace b) (hv : IsValue (format.read m draft) v draft')
    (t : OrderedTail format members draft' text draft'') :
    OrderedTail format (m :: members) draft (b ++ ',' :: (v ++ text)) draft''

/-- The text of an array of members after its opening bracket. -/
inductive Ordered (format : Format M D α) : List Char → D → Prop
  /-- All members are left out. -/
  | empty {b : List Char} (hb : AllSpace b) : Ordered format (b ++ [']']) format.empty
  /-- There is a first member. -/
  | first {m : M} {members : List M} {draft draft' : D} {b v text : List Char}
    (hm : format.members = m :: members) (hb : AllSpace b) (ho : Opens ']' (v ++ text))
    (hv : IsValue (format.read m format.empty) v draft)
    (t : OrderedTail format members draft text draft') :
    Ordered format (b ++ (v ++ text)) draft'

variable {members : List M} {count : Nat} {x : α}

/-- The rest of an array of members is the rest of an array of any values. -/
theorem OrderedTail.tail (t : OrderedTail format members draft text draft') :
  Tail ']' (fun _ p _ => Skipped p) () text ()
  := by
  induction t with
  | close hb => apply Tail.close hb
  | next hb hv t ih => apply Tail.next hb hv.skips ih

theorem OrderedTail.ends (t : OrderedTail format members draft text draft') (rest : List Char) :
  Ends (text ++ rest)
  := t.tail.ends (Or.inl rfl) rest

/-- Once a member has been read, the array goes on with the others. -/
theorem readOrdered_of_readMember {m : M}
    (hread : format.readMember m draft text = ⟨draft', .ok rest⟩) {b : List Char}
    (hb : AllSpace b) (hcount : count ≠ 0) :
  format.readOrdered (m :: members) count draft (b ++ ',' :: text)
    = format.readOrdered members (count + 1) draft' rest
  := by
  rw [readOrdered, skipSpace_append_cons hb (by decide)]
  simp [hcount, hread]

theorem readOrdered_first {m : M} (hread : format.readMember m draft text = ⟨draft', .ok rest⟩)
    {b : List Char} (hb : AllSpace b) (ho : Opens ']' text) :
  format.readOrdered (m :: members) 0 draft (b ++ text)
    = format.readOrdered members 1 draft' rest
  := by
  obtain ⟨c, more, rfl, hspace, hne⟩ := ho
  rw [readOrdered, skipSpace_append_cons hb hspace]
  simp [hread]

theorem readOrdered_close (hfinish : format.finish draft = .ok x) {b : List Char} (hb : AllSpace b)
    (rest : List Char) :
  format.readOrdered members count draft (b ++ ']' :: rest) = ⟨draft, .ok rest⟩
  := by
  have hspace : skipSpace (b ++ ']' :: rest) = ']' :: rest :=
    skipSpace_append_cons hb (by decide) rest
  cases members with
  | nil => simp only [readOrdered, readClose, hspace]
  | cons m members => simp only [readOrdered, hspace, hfinish]

theorem OrderedTail.reads (t : OrderedTail format members draft text draft')
    (hfinish : format.finish draft' = .ok x) (hcount : count ≠ 0) (rest : List Char) :
  format.readOrdered members count draft (text ++ rest) = ⟨draft', .ok rest⟩
  := by
  induction t generalizing count with
  | @close members draft b hb =>
    rw [List.append_assoc, List.singleton_append, readOrdered_close hfinish hb]
  | @next m members draft draft₁ draft₂ b v text hb hv t ih =>
    have hread := readMember_of_isValue hv (t.ends rest)
    rw [List.append_assoc, List.cons_append, List.append_assoc,
      readOrdered_of_readMember hread hb hcount]
    apply ih hfinish (Nat.succ_ne_zero count)

theorem exists_of_readClose (h : readClose text = .ok rest) :
  ∃ b, AllSpace b ∧ text = b ++ ']' :: rest
  := by
  unfold readClose at h
  split at h
  · next after hs =>
    cases h
    obtain ⟨b, hb, ht, -⟩ := exists_of_skipSpace_eq_cons hs
    use b, hb, ht
  · cases h

/-- What is read after a value of an array of members is the rest of the array. -/
theorem exists_of_readOrdered (h : ∀ m draft, TakesValues (format.read m draft))
    (hcount : count ≠ 0)
    (hread : format.readOrdered members count draft text = ⟨draft', .ok rest⟩) :
  ∃ s, text = s ++ rest ∧ OrderedTail format members draft s draft'
  := by
  induction members generalizing count draft text with
  | nil =>
    rw [readOrdered, Progress.mk.injEq] at hread
    obtain ⟨rfl, hclose⟩ := hread
    obtain ⟨b, hb, rfl⟩ := exists_of_readClose hclose
    use b ++ [']'], by simp, .close hb
  | cons m members ih =>
    unfold readOrdered at hread
    split at hread
    · next after hs =>
      obtain ⟨b, hb, rfl, -⟩ := exists_of_skipSpace_eq_cons hs
      split at hread
      · cases hread
        use b ++ [']'], by simp, .close hb
      · cases hread
    · next c more _ hs =>
      obtain ⟨b, hb, rfl, -⟩ := exists_of_skipSpace_eq_cons hs
      split at hread
      · next hcomma =>
        obtain rfl : c = ',' := by simpa [hcount] using hcomma
        dsimp only at hread
        split at hread
        · next hleft =>
          rw [hread] at hleft
          cases hleft
        · next after hleft =>
          obtain ⟨v, rfl, hv⟩ := exists_of_readMember (h m draft) (eq_of_left hleft)
          obtain ⟨s, rfl, hs⟩ := ih (Nat.succ_ne_zero count) hread
          use b ++ ',' :: (v ++ s), by simp, .next hb hv hs
      · cases hread
    · cases hread

theorem exists_of_readOrdered_zero (h : ∀ m draft, TakesValues (format.read m draft))
    (hread : format.readOrdered format.members 0 format.empty text = ⟨draft, .ok rest⟩) :
  ∃ s, text = s ++ rest ∧ Ordered format s draft
  := by
  generalize hmembers : format.members = members at hread
  cases members with
  | nil =>
    rw [readOrdered, Progress.mk.injEq] at hread
    obtain ⟨rfl, hclose⟩ := hread
    obtain ⟨b, hb, rfl⟩ := exists_of_readClose hclose
    use b ++ [']'], by simp, .empty hb
  | cons m members =>
    unfold readOrdered at hread
    split at hread
    · next after hs =>
      obtain ⟨b, hb, rfl, -⟩ := exists_of_skipSpace_eq_cons hs
      split at hread
      · cases hread
        use b ++ [']'], by simp, .empty hb
      · cases hread
    · next c more hne hs =>
      obtain ⟨b, hb, rfl, hspace⟩ := exists_of_skipSpace_eq_cons hs
      simp only [decide_true, Bool.true_or, if_true] at hread
      split at hread
      · next hleft =>
        rw [hread] at hleft
        cases hleft
      · next after hleft =>
        obtain ⟨v, ht, hv⟩ := exists_of_readMember (h m _) (eq_of_left hleft)
        obtain ⟨s, rfl, hs⟩ := exists_of_readOrdered h Nat.one_ne_zero hread
        obtain ⟨d, v, rfl⟩ := List.exists_cons_of_ne_nil hv.ne_nil
        cases ht
        use b ++ ((c :: v) ++ s), by simp
        apply Ordered.first hmembers hb _ hv hs
        use c, v ++ s, rfl, hspace, hne
    · cases hread

/-! ### Records -/

/-- A text holds a draft of a record. -/
inductive Holds (format : Format M D α) : List Char → D → Prop
  /-- The record is an object. -/
  | object {content : List Char} {draft : D}
    (h : Enclosed '\x7d' format.Piece format.empty content draft) :
    Holds format ('\x7b' :: content) draft
  /-- The record is an array. -/
  | array {content : List Char} {draft : D} (h : Ordered format content draft) :
    Holds format ('[' :: content) draft

theorem readDraft_append {b : List Char} (hb : AllSpace b) (text : List Char) :
  format.readDraft (b ++ text) = format.readDraft text
  := by
  simp only [readDraft, refusal, skipSpace_append hb]

theorem readDraft_object (text : List Char) :
  format.readDraft ('\x7b' :: text)
    = readEnclosed '\x7d' (memberStep readText format.readKeyed) format.empty text
  := by
  rw [← readObjectRest_eq_readEnclosed]
  rfl

theorem readDraft_array (text : List Char) :
  format.readDraft ('[' :: text) = format.readOrdered format.members 0 format.empty text
  := rfl

/-- A complete draft is read from a text that holds it. -/
theorem Holds.reads (h : format.Holds text draft) (hfinish : format.finish draft = .ok x)
    (rest : List Char) :
  format.readDraft (text ++ rest) = ⟨draft, .ok rest⟩
  := by
  cases h with
  | @object content _ h =>
    have hsteps : Enclosed '\x7d' (StepTakes (memberStep readText format.readKeyed))
        format.empty content draft := h.map id fun _ _ _ _ hp => hp.takes
    rw [List.cons_append, readDraft_object, hsteps.reads (Or.inr rfl)]
  | array h =>
    rw [List.cons_append, readDraft_array]
    cases h with
    | empty hb =>
      rw [List.append_assoc, List.singleton_append, readOrdered_close hfinish hb]
    | @first m members draft₁ _ b v text hm hb ho hv t =>
      have hread := readMember_of_isValue hv (t.ends rest)
      have ho' := ho.append rest
      rw [List.append_assoc] at ho'
      rw [List.append_assoc, List.append_assoc, hm, readOrdered_first hread hb ho',
        t.reads hfinish Nat.one_ne_zero]

/-- A text that holds a draft can be passed over. -/
theorem Holds.skips (h : format.Holds text draft) :
  Skipped text
  := by
  cases h with
  | object h =>
    apply skipped_object
    apply h.map fun _ => ()
    rintro _ p _ - ⟨key, v, hp, hentry⟩
    use v, hp.mono fun k hk => hk.skips, hentry.skips
  | array h =>
    apply skipped_array
    cases h with
    | empty hb => apply Enclosed.empty hb
    | first hm hb ho hv t => apply Enclosed.items hb ho hv.skips t.tail

/-- Where a draft has been read, there is a text that holds it. -/
theorem exists_of_readDraft (h : ∀ m draft, TakesValues (format.read m draft))
    (hread : format.readDraft text = ⟨draft, .ok rest⟩) :
  ∃ s, skipSpace text = s ++ rest ∧ format.Holds s draft
  := by
  unfold readDraft at hread
  split at hread
  · next more hs =>
    rw [readObjectRest_eq_readEnclosed] at hread
    obtain ⟨content, rfl, hcontent⟩ :=
      exists_of_readEnclosed (takesOnly_piece h) (fun _ _ _ hp => hp.ne_nil) hread
    use '\x7b' :: content, hs, .object hcontent
  · next more hs =>
    obtain ⟨content, rfl, hcontent⟩ := exists_of_readOrdered_zero h hread
    use '[' :: content, hs, .array hcontent
  · cases hread

theorem ignoresSpace_record :
  IgnoresSpace format.readRecord
  := by
  intro b text hb
  rw [readRecord, readRecord, readDraft_append hb]

/-- A text that holds a complete draft is a value for the reader of the record. -/
theorem Holds.isValue (h : format.Holds text draft) (hfinish : format.finish draft = .ok x) :
  IsValue format.readRecord text x
  where
  reads := by
    intro rest _
    rw [readRecord, h.reads hfinish]
    simp only [finishDraft, hfinish, bind, Except.bind, pure, Except.pure]
  skips := h.skips

theorem takesValues_record (h : ∀ m draft, TakesValues (format.read m draft)) :
  TakesValues format.readRecord
  := by
  apply takesValues_of_skipSpace ignoresSpace_record
  intro text x rest hread
  rw [readRecord, finishDraft, bind_eq_ok_iff] at hread
  obtain ⟨after, hleft, hrecord⟩ := hread
  split at hrecord
  · next record hfinish =>
    cases hrecord
    obtain ⟨s, hs, hholds⟩ := exists_of_readDraft h (eq_of_left hleft)
    exact ⟨s, hs, hholds.isValue hfinish⟩
  · cases hrecord

end SqlScribe.Json.Format
