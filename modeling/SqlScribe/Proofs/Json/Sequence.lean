import SqlScribe.Proofs.Json.Reading

/-!
# Arrays and objects of JSON that are read

What the loops over arrays and objects take off a text.  Both loops are one (`readItems`): a step
reads an item from a state and comes to another state, and after blank characters a comma leads
to the next item and the closing bracket to the end.  The step for a member of an object reads
the key first (`memberStep`).

The text up to the closing bracket consists of the pieces that the steps take off, and the pieces
lead from one state to the next (`Items`, `Enclosed`).  Where the loop has come to the end
there are such pieces (`exists_of_readEnclosed`), and wherever there are, the loop comes to its
end (`Enclosed.reads`).  So a document can be changed by changing one piece of it.
-/

namespace SqlScribe.Json

variable {σ τ : Type}

/-! ### One loop -/

/-- Reads items up to a closing bracket; the first one is next. -/
def readItems (close : Char) (step : σ → List Char → Progress σ) :
    List Char → σ → List Char → Progress σ
  | [], s, _ => ⟨s, .error .truncated⟩
  | _ :: bound, s, text =>
    match (step s text).left with
    | .error _ => step s text
    | .ok rest =>
      match skipSpace rest with
      | [] => ⟨(step s text).state, .error .truncated⟩
      | c :: after =>
        if c = close then ⟨(step s text).state, .ok after⟩
        else if c = ',' then readItems close step bound (step s text).state after
        else ⟨(step s text).state, .error .malformed⟩

/-- Reads items up to a closing bracket, or the bracket alone. -/
def readEnclosed (close : Char) (step : σ → List Char → Progress σ) (s : σ) (text : List Char) :
    Progress σ :=
  match skipSpace text with
  | [] => ⟨s, .error .truncated⟩
  | c :: more =>
    if c = close then ⟨s, .ok more⟩ else readItems close step (c :: more) s (c :: more)

/-- Reads a key, and then what the step for the key reads. -/
def memberStep (readKey : Reader String) (step : σ → String → List Char → Progress σ) (s : σ)
    (text : List Char) : Progress σ :=
  match skipSpace text with
  | '"' :: keyText =>
    match readKey keyText with
    | .error f => ⟨s, .error f⟩
    | .ok (key, afterKey) => step s key afterKey
  | other => ⟨s, .error (unexpected other)⟩

theorem readElements_eq_readItems (step : σ → List Char → Progress σ) (bound : List Char) (s : σ)
    (text : List Char) :
  readElements step bound s text = readItems ']' step bound s text
  := by
  induction bound generalizing s text with
  | nil => rfl
  | cons e bound ih =>
    simp only [readElements, readItems]
    cases (step s text).left with
    | error f => rfl
    | ok rest =>
      simp only
      generalize skipSpace rest = next
      cases next with
      | nil => rfl
      | cons c after =>
        by_cases hclose : c = ']'
        · subst hclose
          rfl
        · by_cases hcomma : c = ','
          · subst hcomma
            simp [ih]
          · simp [unexpected, hclose, hcomma]

theorem memberStep_of_quote {readKey : Reader String}
    {step : σ → String → List Char → Progress σ} {s : σ} {text keyText : List Char}
    (h : skipSpace text = '"' :: keyText) :
  memberStep readKey step s text =
    match readKey keyText with
    | .error f => ⟨s, .error f⟩
    | .ok (key, afterKey) => step s key afterKey
  := by
  simp only [memberStep, h]

theorem memberStep_of_not_quote {readKey : Reader String}
    {step : σ → String → List Char → Progress σ} {s : σ} {text : List Char}
    (h : ∀ keyText, skipSpace text ≠ '"' :: keyText) :
  memberStep readKey step s text = ⟨s, .error (unexpected (skipSpace text))⟩
  := by
  unfold memberStep
  split
  · next hs => exact absurd hs (h _)
  · rfl

theorem readMembers_eq_readItems (readKey : Reader String)
    (step : σ → String → List Char → Progress σ) (bound : List Char) (s : σ) (text : List Char) :
  readMembers readKey step bound s text = readItems '\x7d' (memberStep readKey step) bound s text
  := by
  induction bound generalizing s text with
  | nil => rfl
  | cons e bound ih =>
    rw [readMembers, readItems]
    split
    · next keyText hs =>
      rw [memberStep_of_quote hs]
      cases readKey keyText with
      | error f => rfl
      | ok found =>
        simp only
        cases (step s found.1 found.2).left with
        | error f => rfl
        | ok rest =>
          simp only
          generalize skipSpace rest = next
          cases next with
          | nil => rfl
          | cons c after =>
            by_cases hclose : c = '\x7d'
            · subst hclose
              rfl
            · by_cases hcomma : c = ','
              · subst hcomma
                simp [ih]
              · simp [unexpected, hclose, hcomma]
    · next hs =>
      rw [memberStep_of_not_quote hs]

theorem readArrayRest_eq_readEnclosed (step : σ → List Char → Progress σ) (s : σ)
    (text : List Char) :
  readArrayRest step s text = readEnclosed ']' step s text
  := by
  unfold readArrayRest readEnclosed
  generalize skipSpace text = more
  cases more with
  | nil => rfl
  | cons c more =>
    by_cases hclose : c = ']'
    · subst hclose
      rfl
    · simp [hclose, readElements_eq_readItems]

theorem readObjectRest_eq_readEnclosed (readKey : Reader String)
    (step : σ → String → List Char → Progress σ) (s : σ) (text : List Char) :
  readObjectRest readKey step s text = readEnclosed '\x7d' (memberStep readKey step) s text
  := by
  unfold readObjectRest readEnclosed
  generalize skipSpace text = more
  cases more with
  | nil => rfl
  | cons c more =>
    by_cases hclose : c = '\x7d'
    · subst hclose
      rfl
    · simp [hclose, readMembers_eq_readItems]

/-! ### The pieces of a sequence -/

/-- What can come after a piece: the closing bracket, or a comma and another piece. -/
inductive Tail (close : Char) (R : σ → List Char → σ → Prop) : σ → List Char → σ → Prop
  /-- The bracket closes the sequence. -/
  | close {s : σ} {b : List Char} (hb : AllSpace b) : Tail close R s (b ++ [close]) s
  /-- A comma leads to the next piece. -/
  | next {s s' s'' : σ} {b p text : List Char} (hb : AllSpace b) (h : R s p s')
    (t : Tail close R s' text s'') : Tail close R s (b ++ ',' :: (p ++ text)) s''

/-- A text does not begin with a blank character or a closing bracket. -/
def Opens (close : Char) (text : List Char) : Prop :=
  ∃ c rest, text = c :: rest ∧ isSpace c = false ∧ c ≠ close

theorem Opens.append {close : Char} {text : List Char} (h : Opens close text)
    (rest : List Char) :
  Opens close (text ++ rest)
  := by
  obtain ⟨c, more, rfl, hc⟩ := h
  exact ⟨c, more ++ rest, rfl, hc⟩

theorem Opens.of_append {close : Char} {text rest : List Char} (h : Opens close (text ++ rest))
    (hne : text ≠ []) :
  Opens close text
  := by
  obtain ⟨c, more, heq, hc⟩ := h
  obtain ⟨d, text, rfl⟩ := List.exists_cons_of_ne_nil hne
  cases heq
  exact ⟨c, text, rfl, hc⟩

/-- A text through a closing bracket, with any number of pieces. -/
inductive Enclosed (close : Char) (R : σ → List Char → σ → Prop) : σ → List Char → σ → Prop
  /-- There is no piece. -/
  | empty {s : σ} {b : List Char} (hb : AllSpace b) : Enclosed close R s (b ++ [close]) s
  /-- There are pieces. -/
  | items {s s' s'' : σ} {b p text : List Char} (hb : AllSpace b) (ho : Opens close (p ++ text))
    (h : R s p s') (t : Tail close R s' text s'') : Enclosed close R s (b ++ (p ++ text)) s''

/-- A step takes a piece off a text, as long as a value can end after it. -/
def StepTakes (step : σ → List Char → Progress σ) (s : σ) (p : List Char) (s' : σ) : Prop :=
  ∀ rest, Ends rest → step s (p ++ rest) = ⟨s', .ok rest⟩

/-- Whatever a step takes off a text is a piece of a kind. -/
def TakesOnly (step : σ → List Char → Progress σ) (R : σ → List Char → σ → Prop) : Prop :=
  ∀ s text s' rest, step s text = ⟨s', .ok rest⟩ → ∃ p, text = p ++ rest ∧ R s p s'

variable {close : Char} {R : σ → List Char → σ → Prop} {step : σ → List Char → Progress σ}
  {s s' s'' : σ} {p text rest : List Char}

/-- Pieces can be seen as pieces of another kind. -/
theorem Tail.map {Q : τ → List Char → τ → Prop} (f : σ → τ) (t : Tail close R s text s')
    (hmap : ∀ s p s', p.length ≤ text.length → R s p s' → Q (f s) p (f s')) :
  Tail close Q (f s) text (f s')
  := by
  induction t with
  | close hb => apply Tail.close hb
  | next hb h t ih =>
    apply Tail.next hb
    · apply hmap _ _ _ _ h
      simp only [List.length_append, List.length_cons]
      omega
    · apply ih
      intro s p s' hp
      apply hmap
      simp only [List.length_append, List.length_cons]
      omega

theorem Enclosed.map {Q : τ → List Char → τ → Prop} (f : σ → τ) (t : Enclosed close R s text s')
    (hmap : ∀ s p s', p.length ≤ text.length → R s p s' → Q (f s) p (f s')) :
  Enclosed close Q (f s) text (f s')
  := by
  cases t with
  | empty hb => apply Enclosed.empty hb
  | items hb ho h t =>
    apply Enclosed.items hb ho
    · apply hmap _ _ _ _ h
      simp only [List.length_append]
      omega
    · apply t.map f
      intro s p s' hp
      apply hmap
      simp only [List.length_append]
      omega

/-- A value can end before what separates pieces. -/
theorem ends_append_cons {b : List Char} (hb : AllSpace b) {c : Char}
    (hc : c = ',' ∨ c = ']' ∨ c = '\x7d') (rest : List Char) :
  Ends (b ++ c :: rest)
  := by
  apply ends_append hb
  intro d hd
  cases hd
  right
  apply hc

theorem Tail.ends (t : Tail close R s text s') (hclose : close = ']' ∨ close = '\x7d')
    (rest : List Char) :
  Ends (text ++ rest)
  := by
  cases t with
  | close hb =>
    rw [List.append_assoc]
    apply ends_append_cons hb (Or.inr hclose)
  | next hb h t =>
    rw [List.append_assoc]
    apply ends_append_cons hb (Or.inl rfl)

/-- The loop takes the pieces of a sequence. -/
theorem Tail.reads (t : Tail close (StepTakes step) s' text s'')
    (hclose : close = ']' ∨ close = '\x7d') (h : StepTakes step s p s') (bound : List Char)
    (hbound : (p ++ text).length ≤ bound.length) (rest : List Char) :
  readItems close step bound s (p ++ (text ++ rest)) = ⟨s'', .ok rest⟩
  := by
  have hspace : isSpace close = false := by rcases hclose with rfl | rfl <;> decide
  have hcomma : ',' ≠ close := by rcases hclose with rfl | rfl <;> decide
  induction t generalizing s p bound with
  | close hb =>
    cases bound with
    | nil => simp at hbound
    | cons e bound =>
      have hstep := h _ (ends_append_cons hb (Or.inr hclose) rest)
      rw [List.append_assoc, List.singleton_append, readItems, hstep]
      simp [skipSpace_append_cons hb hspace]
  | @next s₁ s₂ s₃ b q text hb hq t ih =>
    cases bound with
    | nil => simp at hbound
    | cons e bound =>
      have hstep := h _ (ends_append_cons hb (Or.inl rfl) (q ++ (text ++ rest)))
      rw [List.append_assoc, List.cons_append, List.append_assoc, readItems, hstep]
      simp only [skipSpace_append_cons hb (show isSpace ',' = false by decide), if_neg hcomma,
        if_true]
      apply ih hq
      simp only [List.length_append, List.length_cons] at hbound ⊢
      omega

theorem Enclosed.reads (t : Enclosed close (StepTakes step) s text s')
    (hclose : close = ']' ∨ close = '\x7d') (rest : List Char) :
  readEnclosed close step s (text ++ rest) = ⟨s', .ok rest⟩
  := by
  have hspace : isSpace close = false := by rcases hclose with rfl | rfl <;> decide
  cases t with
  | empty hb =>
    simp [readEnclosed, skipSpace_append_cons hb hspace]
  | @items _ _ b p text hb ho h t =>
    obtain ⟨c, more, heq, hc, hne⟩ := ho
    have hloop := t.reads hclose h (c :: more ++ rest) (by rw [heq]; simp) rest
    rw [← List.append_assoc, heq] at hloop
    rw [List.append_assoc, heq, readEnclosed, List.cons_append, skipSpace_append_cons hb hc]
    simp only [if_neg hne]
    apply hloop

/-- The loop takes nothing but the pieces of a sequence. -/
theorem exists_of_readItems (hstep : TakesOnly step R) {bound : List Char}
    (h : readItems close step bound s text = ⟨s', .ok rest⟩) :
  ∃ p tail s₁, text = p ++ (tail ++ rest) ∧ R s p s₁ ∧ Tail close R s₁ tail s'
  := by
  induction bound generalizing s text with
  | nil => cases h
  | cons e bound ih =>
    obtain ⟨s₁, left, hs⟩ : ∃ s₁ left, step s text = ⟨s₁, left⟩ := ⟨_, _, rfl⟩
    rw [readItems, hs] at h
    cases left with
    | error f => cases h
    | ok after =>
      obtain ⟨p, rfl, hp⟩ := hstep _ _ _ _ hs
      simp only at h
      split at h
      · cases h
      · next c next hskip =>
        obtain ⟨b, hb, rfl, -⟩ := exists_of_skipSpace_eq_cons hskip
        split at h
        · next hc =>
          cases h
          subst hc
          use p, b ++ [c], s', by simp, hp, .close hb
        · split at h
          · next hc =>
            subst hc
            obtain ⟨q, tail, s₂, rfl, hq, htail⟩ := ih h
            use p, b ++ ',' :: (q ++ tail), s₁, by simp, hp, .next hb hq htail
          · cases h

theorem exists_of_readEnclosed (hstep : TakesOnly step R)
    (hne : ∀ s p s', R s p s' → p ≠ [])
    (h : readEnclosed close step s text = ⟨s', .ok rest⟩) :
  ∃ content, text = content ++ rest ∧ Enclosed close R s content s'
  := by
  rw [readEnclosed] at h
  split at h
  · cases h
  · next c more hskip =>
    obtain ⟨b, hb, rfl, hc⟩ := exists_of_skipSpace_eq_cons hskip
    split at h
    · next heq =>
      cases h
      subst heq
      use b ++ [c], by simp, .empty hb
    · next hclose =>
      obtain ⟨p, tail, s₁, ht, hp, htail⟩ := exists_of_readItems hstep h
      use b ++ (p ++ tail), by rw [ht, List.append_assoc, List.append_assoc]
      apply Enclosed.items hb _ hp htail
      obtain ⟨d, p, rfl⟩ := List.exists_cons_of_ne_nil (hne _ _ _ hp)
      cases ht
      use c, p ++ tail, rfl

/-! ### Pieces with commas between them -/

/-- Pieces lead from one state to another. -/
inductive Chain (R : σ → List Char → σ → Prop) : σ → List (List Char) → σ → Prop
  /-- There is no piece. -/
  | nil {s : σ} : Chain R s [] s
  /-- The first piece leads to the state from which the others start. -/
  | cons {s s' s'' : σ} {p : List Char} {ps : List (List Char)} (h : R s p s')
    (t : Chain R s' ps s'') : Chain R s (p :: ps) s''

variable {ps qs : List (List Char)}

theorem Chain.append (t : Chain R s ps s') (u : Chain R s' qs s'') :
  Chain R s (ps ++ qs) s''
  := by
  induction t with
  | nil => apply u
  | cons h t ih => apply Chain.cons h (ih u)

/-- The pieces after another one are the tail of a sequence, also with blank characters before its
end. -/
theorem Chain.exists_tail (t : Chain R s ps s') (close : Char) {b : List Char} (hb : AllSpace b) :
  ∃ text, Tail close R s text s'
    ∧ ∀ p, [','].intercalate (p :: ps) ++ (b ++ [close]) = p ++ text
  := by
  induction t with
  | nil =>
    use b ++ [close], .close hb
    intro p
    rw [List.intercalate_singleton]
  | @cons s s₁ s₂ q ps h t ih =>
    obtain ⟨text, htail, heq⟩ := ih
    use ',' :: (q ++ text), .next allSpace_nil h htail
    intro p
    rw [List.intercalate_cons_cons, List.append_assoc, heq q]
    simp

/-- Pieces with commas between them are a sequence. -/
theorem Chain.enclosed (t : Chain R s ps s') (close : Char) (ho : ∀ p ∈ ps, Opens close p) :
  Enclosed close R s ([','].intercalate ps ++ [close]) s'
  := by
  cases t with
  | nil =>
    rw [List.intercalate_nil]
    apply Enclosed.empty allSpace_nil
  | @cons _ s₁ _ p ps h t =>
    obtain ⟨text, htail, heq⟩ := t.exists_tail close allSpace_nil
    rw [List.nil_append] at heq
    rw [heq p]
    apply Enclosed.items allSpace_nil _ h htail
    apply (ho p List.mem_cons_self).append

/-- Blank characters can stand before each of the pieces. -/
theorem Chain.spaced {b : List Char} (t : Chain R s ps s')
    (h : ∀ s p s', R s p s' → R s (b ++ p) s') :
  Chain R s (ps.map (b ++ ·)) s'
  := by
  induction t with
  | nil => apply Chain.nil
  | cons hp t ih => apply Chain.cons (h _ _ _ hp) ih

/-- Pieces with commas between them, and with blank characters before each of them and before the
end, are a sequence. -/
theorem Chain.enclosed_spaced (t : Chain R s ps s') (close : Char) (hne : ps ≠ [])
    (ho : ∀ p ∈ ps, Opens close p) {a b : List Char} (ha : AllSpace a) (hb : AllSpace b)
    (h : ∀ s p s', R s p s' → R s (a ++ p) s') :
  Enclosed close R s ([','].intercalate (ps.map (a ++ ·)) ++ (b ++ [close])) s'
  := by
  cases t with
  | nil => contradiction
  | @cons _ s₁ _ p ps hp t =>
    -- The blank characters before the first piece are those at the start of the sequence, since no
    -- first piece begins with them; all others belong to the pieces after them.
    obtain ⟨text, htail, heq⟩ := (t.spaced h).exists_tail close hb
    rw [List.map_cons, heq (a ++ p), List.append_assoc]
    apply Enclosed.items ha _ hp htail
    apply (ho p List.mem_cons_self).append

end SqlScribe.Json
