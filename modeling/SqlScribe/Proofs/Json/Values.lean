import SqlScribe.Proofs.Json.Skipping

/-!
# Values of JSON that are read

What the readers of typed values take off a text.  A piece of text is a value for a reader
(`IsValue`) when the reader finds it there, whatever comes after its end, and when it can be passed
over as a value of any kind.  Whatever a reader has taken off a text is such a piece
(`TakesValues`): this is shown for the readers of strings, truth values and words, and for optional
values and lists of what another reader reads.
-/

namespace SqlScribe.Json

variable {α : Type} {v : List Char}

/-! ### Values that are read -/

/-- A piece of text is a value for a reader. -/
structure IsValue (read : Reader α) (s : List Char) (x : α) : Prop where
  /-- The reader finds the value. -/
  reads : ReadsInside read s x
  /-- The piece can be passed over. -/
  skips : Skipped s

/-- Whatever the reader takes off a text is a value for it. -/
def TakesValues (read : Reader α) : Prop :=
  ∀ text x rest, read text = .ok (x, rest) → ∃ s, text = s ++ rest ∧ IsValue read s x

/-- Blank characters before a value do not matter to the reader. -/
def IgnoresSpace (read : Reader α) : Prop :=
  ∀ b text, AllSpace b → read (b ++ text) = read text

variable {read : Reader α} {x : α}

theorem IsValue.ne_nil (h : IsValue read v x) :
  v ≠ []
  := h.skips.ne_nil

theorem IsValue.append {b : List Char} (hb : AllSpace b) (hspace : IgnoresSpace read)
    (h : IsValue read v x) :
  IsValue read (b ++ v) x
  where
  reads := by
    intro rest hrest
    rw [List.append_assoc, hspace _ _ hb, h.reads rest hrest]
  skips := h.skips.append hb

/-- It is enough to look at what a reader takes off after blank characters. -/
theorem takesValues_of_skipSpace (hspace : IgnoresSpace read)
    (h : ∀ text x rest, read text = .ok (x, rest) →
      ∃ s, skipSpace text = s ++ rest ∧ IsValue read s x) :
  TakesValues read
  := by
  intro text x rest hread
  obtain ⟨s, hs, hvalue⟩ := h text x rest hread
  obtain ⟨b, hb, ht⟩ := exists_skipSpace text
  exact ⟨b ++ s, by rw [ht, hs, List.append_assoc], hvalue.append hb hspace⟩

/-! #### Strings -/

theorem ignoresSpace_string :
  IgnoresSpace readString
  := by
  intro b text hb
  simp only [readString, refusal, skipSpace_append hb]

theorem isValue_string {k : List Char} {x : String} (h : IsString k x) :
  IsValue readString ('"' :: k) x
  where
  reads := by
    intro rest _
    rw [List.cons_append, readString, skipSpace_cons (by decide)]
    apply h.reads
  skips := skipped_string h.skips

theorem takesValues_string :
  TakesValues readString
  := by
  apply takesValues_of_skipSpace ignoresSpace_string
  intro text x rest h
  unfold readString at h
  split at h
  · next more hs =>
    obtain ⟨k, rfl, hk⟩ := isString_of_readText h
    exact ⟨'"' :: k, hs, isValue_string hk⟩
  · cases h

/-! #### Truth values -/

theorem ignoresSpace_bool :
  IgnoresSpace readBool
  := by
  intro b text hb
  simp only [readBool, refusal, skipSpace_append hb]

theorem isValue_true :
  IsValue readBool ['t', 'r', 'u', 'e'] true
  where
  reads := by
    intro rest _
    rfl
  skips := skipped_true

theorem isValue_false :
  IsValue readBool ['f', 'a', 'l', 's', 'e'] false
  where
  reads := by
    intro rest _
    rfl
  skips := skipped_false

theorem takesValues_bool :
  TakesValues readBool
  := by
  apply takesValues_of_skipSpace ignoresSpace_bool
  intro text x rest h
  unfold readBool at h
  split at h
  · next more hs =>
    obtain ⟨after, hexpect, heq⟩ := map_eq_ok_iff.mp h
    cases heq
    rw [hs, eq_append_of_expect hexpect]
    exact ⟨['t', 'r', 'u', 'e'], rfl, isValue_true⟩
  · next more hs =>
    obtain ⟨after, hexpect, heq⟩ := map_eq_ok_iff.mp h
    cases heq
    rw [hs, eq_append_of_expect hexpect]
    exact ⟨['f', 'a', 'l', 's', 'e'], rfl, isValue_false⟩
  · cases h

/-! #### Words -/

theorem ignoresSpace_word :
  IgnoresSpace readWord
  := by
  intro b text hb
  simp only [readWord, refusal, skipSpace_append hb]

theorem isValue_word {n : Int} (hhead : ∃ c ∈ v.head?, c = '-' ∨ c.isDigit = true)
    (hread : ReadsInside readNumber v (.integer n))
    (hskip : ∀ rest, Ends rest → skipNumber (v ++ rest) = .ok rest)
    (hn : 0 ≤ n ∧ n < UInt32.size) :
  IsValue readWord v (UInt32.ofNat n.toNat)
  where
  reads := by
    obtain ⟨c, hc, hnumber⟩ := hhead
    obtain ⟨more, rfl⟩ := List.head?_eq_some_iff.mp hc
    intro rest hrest
    have hvalue := hread rest hrest
    rw [List.cons_append] at hvalue ⊢
    rw [readWord, skipSpace_cons (ne_of_number hnumber).1]
    simp only [Bool.or_eq_true, beq_iff_eq, hnumber, if_true, hvalue, if_pos hn]
  skips := skipped_number hhead hskip

theorem takesValues_word :
  TakesValues readWord
  := by
  apply takesValues_of_skipSpace ignoresSpace_word
  intro text x rest h
  unfold readWord at h
  split at h
  · cases h
  · next c more hs =>
    split at h
    · split at h
      · cases h
      · cases h
      · next n after hread =>
        split at h
        · next hn =>
          cases h
          obtain ⟨s, ht, hhead, hreads, hskip⟩ := exists_of_readNumber hread
          exact ⟨s, by rw [hs, ht], isValue_word hhead hreads hskip hn⟩
        · cases h
    · cases h

/-! #### Optional values -/

theorem ignoresSpace_option (hspace : IgnoresSpace read) :
  IgnoresSpace (readOption read)
  := by
  intro b text hb
  simp only [readOption, skipSpace_append hb, hspace b text hb]

theorem isValue_none :
  IsValue (readOption read) ['n', 'u', 'l', 'l'] none
  where
  reads := by
    intro rest _
    rfl
  skips := skipped_null

theorem isValue_some (h : IsValue read v x) (hhead : ∀ c ∈ v.head?, isSpace c = false ∧ c ≠ 'n') :
  IsValue (readOption read) v (some x)
  where
  reads := by
    obtain ⟨c, more, rfl⟩ := List.exists_cons_of_ne_nil h.ne_nil
    obtain ⟨hspace, hn⟩ := hhead c rfl
    intro rest hrest
    have hread := h.reads rest hrest
    rw [List.cons_append] at hread ⊢
    unfold readOption
    rw [skipSpace_cons hspace]
    simp [hn, hread, Except.map]
  skips := h.skips

theorem takesValues_option (hspace : IgnoresSpace read) (h : TakesValues read) :
  TakesValues (readOption read)
  := by
  apply takesValues_of_skipSpace (ignoresSpace_option hspace)
  intro text x rest hread
  unfold readOption at hread
  split at hread
  · next more hs =>
    obtain ⟨after, hexpect, heq⟩ := map_eq_ok_iff.mp hread
    cases heq
    rw [hs, eq_append_of_expect hexpect]
    exact ⟨['n', 'u', 'l', 'l'], rfl, isValue_none⟩
  · next hs =>
    obtain ⟨⟨value, after⟩, hvalue, heq⟩ := map_eq_ok_iff.mp hread
    cases heq
    obtain ⟨b, hb, ht⟩ := exists_skipSpace text
    rw [ht, hspace _ _ hb] at hvalue
    obtain ⟨s, hs', hv⟩ := h _ _ _ hvalue
    use s, hs'
    apply isValue_some hv
    intro c hc
    obtain ⟨more, rfl⟩ := List.head?_eq_some_iff.mp hc
    constructor
    · apply isSpace_eq_false_of_skipSpace hs'
    · rintro rfl
      apply hs _ hs'

/-! #### Lists -/

/-- An element of a list comes to the values that have been read before it. -/
def Element (read : Reader α) (values : List α) (p : List Char) (values' : List α) : Prop :=
  ∃ x, values' = x :: values ∧ IsValue read p x

/-- Reads an element of a list. -/
def elementStep (read : Reader α) (values : List α) (text : List Char) : Progress (List α) :=
  match read text with
  | .ok (value, after) => ⟨value :: values, .ok after⟩
  | .error f => ⟨values, .error f⟩

theorem readList_cons (read : Reader α) (text : List Char) :
  readList read ('[' :: text)
    = (readEnclosed ']' (elementStep read) [] text).left.map fun after =>
        ((readEnclosed ']' (elementStep read) [] text).state.reverse, after)
  := by
  rw [← readArrayRest_eq_readEnclosed]
  rfl

theorem ignoresSpace_list :
  IgnoresSpace (readList read)
  := by
  intro b text hb
  simp only [readList, refusal, skipSpace_append hb]

theorem isValue_list {content : List Char} {values : List α}
    (h : Enclosed ']' (Element read) [] content values) :
  IsValue (readList read) ('[' :: content) values.reverse
  where
  reads := by
    intro rest _
    have hsteps : Enclosed ']' (StepTakes (elementStep read)) [] content values := by
      apply h.map id
      rintro values p _ - ⟨x, rfl, hx⟩ rest hrest
      rw [elementStep, hx.reads rest hrest]
      rfl
    rw [List.cons_append, readList_cons, hsteps.reads (Or.inl rfl)]
    rfl
  skips := by
    apply skipped_array
    apply h.map fun _ => ()
    rintro values p _ - ⟨x, rfl, hx⟩
    apply hx.skips

/-- Values lead from the ones that have been read before to all of them. -/
theorem chain_element {text : α → List Char} (xs ys : List α)
    (h : ∀ x ∈ xs, IsValue read (text x) x) :
  Chain (Element read) ys (xs.map text) (xs.reverse ++ ys)
  := by
  induction xs generalizing ys with
  | nil => apply Chain.nil
  | cons x xs ih =>
    have hchain := ih (x :: ys) fun x' hx' => h x' (List.mem_cons_of_mem x hx')
    rw [List.reverse_cons, List.append_assoc]
    apply Chain.cons _ hchain
    use x, rfl, h x List.mem_cons_self |>.reads
    apply (h x List.mem_cons_self).skips

theorem takesOnly_elementStep (h : TakesValues read) :
  TakesOnly (elementStep read) (Element read)
  := by
  intro values text values' rest hstep
  unfold elementStep at hstep
  split at hstep
  · next value after hread =>
    cases hstep
    obtain ⟨s, ht, hs⟩ := h _ _ _ hread
    use s, ht, value
  · cases hstep

theorem takesValues_list (h : TakesValues read) :
  TakesValues (readList read)
  := by
  apply takesValues_of_skipSpace ignoresSpace_list
  intro text x rest hread
  unfold readList at hread
  split at hread
  · next more hs =>
    have hread' : readList read ('[' :: more) = .ok (x, rest) := hread
    rw [readList_cons] at hread'
    obtain ⟨after, hleft, heq⟩ := map_eq_ok_iff.mp hread'
    cases heq
    obtain ⟨content, rfl, hcontent⟩ := exists_of_readEnclosed (takesOnly_elementStep h)
      (fun _ _ _ ⟨_, _, hx⟩ => hx.ne_nil) (eq_of_left hleft)
    exact ⟨'[' :: content, hs, isValue_list hcontent⟩
  · cases hread

end SqlScribe.Json
