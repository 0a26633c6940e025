import SqlScribe.Json.Scalar
import SqlScribe.Proofs.Json.Numbers
import SqlScribe.Proofs.Json.Sequence
import SqlScribe.Proofs.Json.Strings

/-!
# Values of JSON that are passed over

A piece of text is `Skipped` when it can be passed over as a value of any kind, as long as a value
can end after it.  Strings, numbers and the fixed words are such pieces, and so are arrays and
objects whose values are.  Whatever is passed over as a value is such a piece
(`exists_of_skipNested`).  The text of a member of an object is a `Member`: a key, a colon and
a value.
-/

namespace SqlScribe.Json

/-! ### Members -/

/-- A member of an object with a value: a key of a kind, a colon and the value. -/
inductive Member (K : List Char → Prop) (v : List Char) : List Char → Prop
  | mk {b k c : List Char} (hb : AllSpace b) (hk : K k) (hc : AllSpace c) :
    Member K v (b ++ '"' :: (k ++ (c ++ ':' :: v)))

theorem Member.ne_nil {K : List Char → Prop} {v p : List Char} (hp : Member K v p) :
  p ≠ []
  := by
  obtain ⟨hb, hk, hc⟩ := hp
  simp

theorem Member.mono {K K' : List Char → Prop} {v p : List Char} (hp : Member K v p)
    (h : ∀ k, K k → K' k) :
  Member K' v p
  := by
  obtain ⟨hb, hk, hc⟩ := hp
  apply Member.mk hb (h _ hk) hc

theorem Member.length_le {K : List Char → Prop} {v p : List Char} (hp : Member K v p) :
  v.length ≤ p.length
  := by
  obtain ⟨hb, hk, hc⟩ := hp
  simp only [List.length_append, List.length_cons]
  omega

/-- The text of a member with a key and the text of a value. -/
def memberText (key : String) (value : List Char) : List Char :=
  (writeText key).toList ++ ':' :: value

theorem member_memberText (key : String) (v : List Char) :
  Member (IsString · key) v (memberText key v)
  := by
  obtain ⟨k, hk, hkey⟩ := isString_written key
  rw [memberText, hk]
  apply Member.mk allSpace_nil hkey allSpace_nil

variable {σ : Type} {K : List Char → Prop} {readKey : Reader String}
  {step : σ → String → List Char → Progress σ} {s s' : σ} {key : String}
  {p v text rest : List Char}

/-- After its key a member is left to the step for the key. -/
theorem Member.memberStep (hp : Member K v p) (hK : ∀ k, K k → Reads readKey k key)
    (step : σ → String → List Char → Progress σ) (s : σ) :
  ∃ c, AllSpace c ∧
    ∀ rest, memberStep readKey step s (p ++ rest) = step s key (c ++ ':' :: (v ++ rest))
  := by
  obtain @⟨b, k, c, hb, hk, hc⟩ := hp
  use c, hc
  intro rest
  rw [List.append_assoc, List.cons_append,
    memberStep_of_quote (skipSpace_append_cons hb (by decide) _), List.append_assoc, hK k hk]
  simp

/-- What a step for a member has taken off begins with a key. -/
theorem exists_of_memberStep (h : Json.memberStep readKey step s text = ⟨s', .ok rest⟩) :
  ∃ b keyText key afterKey, AllSpace b ∧ text = b ++ '"' :: keyText
    ∧ readKey keyText = .ok (key, afterKey) ∧ step s key afterKey = ⟨s', .ok rest⟩
  := by
  by_cases hq : ∃ keyText, skipSpace text = '"' :: keyText
  · obtain ⟨keyText, hs⟩ := hq
    rw [memberStep_of_quote hs] at h
    obtain ⟨b, hb, rfl, -⟩ := exists_of_skipSpace_eq_cons hs
    split at h
    · cases h
    · next key afterKey hkey => use b, keyText, key, afterKey
  · rw [memberStep_of_not_quote (by simpa using hq)] at h
    cases h

/-- The members of an object are taken off if their keys and their values are. -/
theorem takesOnly_memberStep {K : String → List Char → Prop} {Q : σ → String → List Char → σ → Prop}
    (hkey : ∀ text key rest, readKey text = .ok (key, rest) → ∃ k, text = k ++ rest ∧ K key k)
    (hstep : ∀ s key text s' rest, step s key text = ⟨s', .ok rest⟩ →
      ∃ c v, AllSpace c ∧ text = c ++ ':' :: (v ++ rest) ∧ Q s key v s') :
  TakesOnly (Json.memberStep readKey step) fun s p s' => ∃ key v, Member (K key) v p ∧ Q s key v s'
  := by
  intro s text s' rest h
  obtain ⟨b, keyText, key, afterKey, hb, rfl, hread, htaken⟩ := exists_of_memberStep h
  obtain ⟨k, rfl, hk⟩ := hkey _ _ _ hread
  obtain ⟨c, v, hc, rfl, hv⟩ := hstep _ _ _ _ _ htaken
  use b ++ '"' :: (k ++ (c ++ ':' :: v)), by simp, key, v, .mk hb hk hc

/-! ### Values that are passed over -/

/-- A piece of text can be passed over as a value. -/
def Skipped (s : List Char) : Prop :=
  ∀ depth rest, s.length ≤ depth → Ends rest → skipNested .lenient depth (s ++ rest) = .ok rest

theorem skipNested_append {b : List Char} (hb : AllSpace b) (how : Skipping) (depth : Nat)
    (text : List Char) :
  skipNested how depth (b ++ text) = skipNested how depth text
  := by
  unfold skipNested
  rw [skipSpace_append hb]

theorem Skipped.append {b v : List Char} (hb : AllSpace b) (h : Skipped v) :
  Skipped (b ++ v)
  := by
  intro depth rest hdepth hrest
  rw [List.append_assoc, skipNested_append hb]
  apply h depth rest _ hrest
  rw [List.length_append] at hdepth
  omega

theorem Skipped.ne_nil (h : Skipped v) :
  v ≠ []
  := by
  rintro rfl
  have hnil := h 0 [] Nat.le.refl ends_nil
  cases hnil

theorem Skipped.skipValue (h : Skipped v) (hrest : Ends rest) :
  skipValue (v ++ rest) = .ok rest
  := by
  apply h _ _ _ hrest
  simp

theorem skipped_string {k : List Char} (hk : ∀ rest, skipText (k ++ rest) = .ok rest) :
  Skipped ('"' :: k)
  := by
  intro depth rest _ _
  unfold skipNested
  rw [List.cons_append, skipSpace_cons (by decide)]
  simp [Skipping.lenient, hk, Except.map]

theorem skipped_null :
  Skipped ['n', 'u', 'l', 'l']
  := by
  intro depth rest _ _
  unfold skipNested
  rfl

theorem skipped_true :
  Skipped ['t', 'r', 'u', 'e']
  := by
  intro depth rest _ _
  unfold skipNested
  rfl

theorem skipped_false :
  Skipped ['f', 'a', 'l', 's', 'e']
  := by
  intro depth rest _ _
  unfold skipNested
  rfl

/-- What begins a number begins no other value. -/
theorem ne_of_number {c : Char} (hc : c = '-' ∨ c.isDigit = true) :
  isSpace c = false ∧ c ≠ '"' ∧ c ≠ 'n' ∧ c ≠ 't' ∧ c ≠ 'f' ∧ c ≠ '[' ∧ c ≠ '\x7b'
  := by
  rcases hc with rfl | hc
  · decide
  · constructor
    · simp only [isSpace, Bool.or_eq_false_iff, beq_eq_false_iff_ne]
      refine ⟨⟨⟨?_, ?_⟩, ?_⟩, ?_⟩ <;> (rintro rfl; contradiction)
    · refine ⟨?_, ?_, ?_, ?_, ?_, ?_⟩ <;> (rintro rfl; contradiction)

theorem skipNested_number {c : Char} (hc : c = '-' ∨ c.isDigit = true) (how : Skipping)
    (depth : Nat) (text : List Char) :
  skipNested how depth (c :: text) = how.number (c :: text)
  := by
  obtain ⟨hspace, hquote, hn, ht, hf, hbracket, hbrace⟩ := ne_of_number hc
  unfold skipNested
  rw [skipSpace_cons hspace]
  simp only
  split <;> simp_all

theorem skipped_number (hhead : ∃ c ∈ v.head?, c = '-' ∨ c.isDigit = true)
    (hv : ∀ rest, Ends rest → skipNumber (v ++ rest) = .ok rest) :
  Skipped v
  := by
  obtain ⟨c, hc, hnumber⟩ := hhead
  obtain ⟨more, rfl⟩ := List.head?_eq_some_iff.mp hc
  intro depth rest _ hrest
  rw [List.cons_append, skipNested_number hnumber]
  apply hv rest hrest

/-- Passes over an element of an array. -/
def passElement (depth : Nat) : Unit → List Char → Progress Unit :=
  fun _ text => ⟨(), skipNested .lenient depth text⟩

/-- Passes over a member of an object, after its key. -/
def passMember (depth : Nat) : Unit → String → List Char → Progress Unit :=
  fun _ _ text => ⟨(), (readColon text).bind (skipNested .lenient depth)⟩

theorem skipNested_array (depth : Nat) (text : List Char) :
  skipNested .lenient (depth + 1) ('[' :: text)
    = (readEnclosed ']' (passElement depth) () text).left
  := by
  rw [← readArrayRest_eq_readEnclosed, skipNested, skipSpace_cons (by decide)]
  rfl

theorem skipNested_object (depth : Nat) (text : List Char) :
  skipNested .lenient (depth + 1) ('\x7b' :: text)
    = (readEnclosed '\x7d' (memberStep Skipping.lenient.text (passMember depth)) () text).left
  := by
  rw [← readObjectRest_eq_readEnclosed, skipNested, skipSpace_cons (by decide)]
  rfl

/-- An array can be passed over if its elements can. -/
theorem skipped_array {content : List Char}
    (h : Enclosed ']' (fun _ p _ => Skipped p) () content ()) :
  Skipped ('[' :: content)
  := by
  intro depth rest hdepth hrest
  cases depth with
  | zero => simp at hdepth
  | succ depth =>
    rw [List.length_cons] at hdepth
    have hsteps : Enclosed ']' (StepTakes (passElement depth)) () content () := by
      apply h.map id
      intro _ p _ hp hskip rest hrest
      rw [passElement, hskip depth rest (by omega) hrest]
    rw [List.cons_append, skipNested_array, hsteps.reads (Or.inl rfl)]

/-- A text can be skipped as the rest of a string. -/
def SkipsText (k : List Char) : Prop :=
  ∀ rest, skipText (k ++ rest) = .ok rest

theorem reads_of_skipsText (k : List Char) (hk : SkipsText k) :
  Reads Skipping.lenient.text k ""
  := by
  intro rest
  simp only [Skipping.lenient, hk rest, Except.map]

/-- An object can be passed over if the values of its members can. -/
theorem skipped_object {content : List Char}
    (h : Enclosed '\x7d' (fun _ p _ => ∃ v, Member SkipsText v p ∧ Skipped v) () content ()) :
  Skipped ('\x7b' :: content)
  := by
  intro depth rest hdepth hrest
  cases depth with
  | zero => simp at hdepth
  | succ depth =>
    rw [List.length_cons] at hdepth
    have hsteps : Enclosed '\x7d'
        (StepTakes (memberStep Skipping.lenient.text (passMember depth))) () content () := by
      apply h.map id
      rintro _ p _ hp ⟨v, hv, hskip⟩ rest hrest
      obtain ⟨c, hc, hstep⟩ := hv.memberStep reads_of_skipsText (passMember depth) ()
      have hlength := hv.length_le
      apply (hstep rest).trans
      rw [passMember, readColon_append hc, Except.bind, hskip depth rest (by omega) hrest]
    rw [List.cons_append, skipNested_object, hsteps.reads (Or.inr rfl)]

/-- Whatever is passed over as an element is a piece that can be passed over. -/
theorem takesOnly_passElement {depth : Nat}
    (h : ∀ text rest, skipNested .lenient depth text = .ok rest →
      ∃ s, text = s ++ rest ∧ Skipped s) :
  TakesOnly (passElement depth) fun _ p _ => Skipped p
  := by
  intro _ text _ rest hstep
  apply h
  rw [passElement, Progress.mk.injEq] at hstep
  apply hstep.2

theorem takesOnly_passMember {depth : Nat}
    (h : ∀ text rest, skipNested .lenient depth text = .ok rest →
      ∃ s, text = s ++ rest ∧ Skipped s) :
  TakesOnly (memberStep Skipping.lenient.text (passMember depth))
    fun _ p _ => ∃ v, Member SkipsText v p ∧ Skipped v
  := by
  have htakes : TakesOnly (memberStep Skipping.lenient.text (passMember depth))
      fun _ p _ => ∃ _ : String, ∃ v, Member SkipsText v p ∧ Skipped v := by
    apply takesOnly_memberStep
    · intro text key rest hkey
      obtain ⟨after, hskip, heq⟩ := map_eq_ok_iff.mp hkey
      cases heq
      apply exists_of_skipText hskip
    · intro _ key text _ rest hstep
      rw [passMember, Progress.mk.injEq] at hstep
      obtain ⟨after, hcolon, hskip⟩ := bind_eq_ok_iff.mp hstep.2
      obtain ⟨c, hc, rfl⟩ := exists_of_readColon hcolon
      obtain ⟨v, rfl, hv⟩ := h _ _ hskip
      use c, v
  intro s text s' rest hstep
  obtain ⟨p, ht, -, hp⟩ := htakes _ _ _ _ hstep
  use p

/-- Whatever is passed over as a value is a piece that can be passed over. -/
theorem exists_of_skipNested {depth : Nat} (h : skipNested .lenient depth text = .ok rest) :
  ∃ s, text = s ++ rest ∧ Skipped s
  := by
  induction depth using Nat.strongRecOn generalizing text rest with
  | ind depth ih =>
    obtain ⟨b, hb, ht⟩ := exists_skipSpace text
    suffices hs : ∃ s, skipSpace text = s ++ rest ∧ Skipped s by
      obtain ⟨s, hs, hskip⟩ := hs
      use b ++ s, by rw [ht, hs, List.append_assoc], hskip.append hb
    have h' := h
    rw [ht, skipNested_append hb] at h'
    unfold skipNested at h
    split at h
    · cases h
    · next more hs =>
      obtain ⟨⟨_, after⟩, hskip, h⟩ := map_eq_ok_iff.mp h
      cases h
      obtain ⟨after', hskip, h⟩ := map_eq_ok_iff.mp hskip
      cases h
      obtain ⟨k, rfl, hk⟩ := exists_of_skipText hskip
      use '"' :: k, hs, skipped_string hk
    · next more hs =>
      rw [hs, eq_append_of_expect h]
      use ['n', 'u', 'l', 'l'], rfl, skipped_null
    · next more hs =>
      rw [hs, eq_append_of_expect h]
      use ['t', 'r', 'u', 'e'], rfl, skipped_true
    · next more hs =>
      rw [hs, eq_append_of_expect h]
      use ['f', 'a', 'l', 's', 'e'], rfl, skipped_false
    · next more hs =>
      cases depth with
      | zero => cases h
      | succ depth =>
        have htakes := takesOnly_passElement fun _ _ => ih depth (Nat.lt_succ_self depth)
        rw [hs, skipNested_array] at h'
        obtain ⟨content, rfl, hcontent⟩ :=
          exists_of_readEnclosed htakes (fun _ _ _ hp => Skipped.ne_nil hp) (eq_of_left h')
        use '[' :: content, hs, skipped_array hcontent
    · next more hs =>
      cases depth with
      | zero => cases h
      | succ depth =>
        have htakes := takesOnly_passMember fun _ _ => ih depth (Nat.lt_succ_self depth)
        rw [hs, skipNested_object] at h'
        obtain ⟨content, rfl, hcontent⟩ :=
          exists_of_readEnclosed htakes (fun _ _ _ ⟨_, hp, _⟩ => hp.ne_nil) (eq_of_left h')
        use '\x7b' :: content, hs, skipped_object hcontent
    · next c more _ _ _ _ _ _ hs =>
      split at h
      · obtain ⟨s, hn, hhead, hskip⟩ := exists_of_skipNumber h
        use s, by rw [hs, hn], skipped_number hhead hskip
      · cases h

end SqlScribe.Json
