import SqlScribe.Proofs.Sql.CodeReading

/-!
# Semicolons among tokens

Semicolons end statements, so their tokens tell how many statements a text has.  A lexeme is a
semicolon as a token when its text is one (`kind_eq_semicolon_iff`), and code has no semicolon
within another lexeme (`CodeState.Pending.semicolon`).  `PassesCleanly` says of a passage that it
has no errors and how many of its tokens are semicolons.
-/

namespace SqlScribe.Sql

open Text Number

/-! ### Lexemes -/

theorem kind_delimited_ne_semicolon {kind : TokenKind} (h : kind ≠ .semicolon)
    (opening rest : List Char) (split : Option (List Char × List Char)) :
  (Lexeme.delimited kind opening rest split).kind ≠ .semicolon
  := by
  cases split with
  | none => simp [Lexeme.delimited]
  | some => exact h

theorem kind_numberLexeme_ne_semicolon (text : List Char) :
  (numberLexeme text).kind ≠ .semicolon
  := by
  unfold numberLexeme
  split
  split
  · simp
  · split
    · dsimp only
      split <;> simp
    · simp

theorem wordKind_ne_semicolon (word : List Char) :
  wordKind word ≠ .semicolon
  := by
  unfold wordKind
  dsimp only
  repeat' split
  all_goals decide

theorem kind_plainLexeme_ne_semicolon (c : Char) (rest : List Char) :
  (plainLexeme c rest).kind ≠ .semicolon
  := by
  unfold plainLexeme
  split
  · simp [Lexeme.ofSplit]
  · split
    · apply wordKind_ne_semicolon
    · split <;> simp [Lexeme.ofSplit]

/-- A lexeme that is a semicolon begins with one. -/
theorem eq_semicolon_of_kind {c : Char} {rest : List Char}
    (h : (lexemeAt c rest).kind = .semicolon) :
  c = ';'
  := by
  by_contra hc
  apply absurd h
  have hsemicolon : (c == ';') = false := beq_eq_false_iff_ne.mpr hc
  simp only [lexemeAt, hsemicolon, Bool.false_eq_true, ↓reduceIte]
  repeat' split
  all_goals first
    | exact kind_delimited_ne_semicolon (by decide) _ _ _
    | exact kind_numberLexeme_ne_semicolon _
    | exact kind_plainLexeme_ne_semicolon _ _
    | simp [Lexeme.ofSplit]

/-- A lexeme is a semicolon if its text is. -/
theorem kind_eq_semicolon_iff {text : List Char} {x : Lexeme} (h : lexeme? text = some x) :
  x.kind = .semicolon ↔ x.text = [';']
  := by
  have hone : ∀ rest, lexeme? (';' :: rest)
      = some { kind := .semicolon, text := [';'], rest, halts := false } := fun _ => rfl
  constructor
  · intro hkind
    cases text with
    | nil => contradiction
    | cons c rest =>
      cases h
      rw [eq_semicolon_of_kind hkind]
      rfl
  · intro htext
    rw [← lexeme?_append h, htext, List.singleton_append, hone] at h
    rw [← Option.some_inj.mp h]

/-! ### Code -/

theorem semicolon_not_mem_digits {digits : List Char} (h : ∀ c ∈ digits, c.isDigit = true) :
  ';' ∉ digits
  := by
  intro hmem
  exact absurd (h _ hmem) (by decide)

theorem semicolon_not_mem_significand {s : List Char} (h : IsSignificand s) :
  ';' ∉ s
  := by
  cases h with
  | whole hd => exact semicolon_not_mem_digits hd.all
  | point hd hf => simp [semicolon_not_mem_digits hd.all, semicolon_not_mem_digits hf]
  | fraction hd => simp [semicolon_not_mem_digits hd.all]

theorem semicolon_not_mem_sign {s : List Char} (h : IsSign s) :
  ';' ∉ s
  := by
  rcases h with rfl | rfl | rfl <;> decide

theorem letter_ne_semicolon {c : Char} (h : c = 'e' ∨ c = 'E') :
  ';' ≠ c
  := by
  rcases h with rfl | rfl <;> decide

theorem sign_ne_semicolon {c : Char} (h : c = '+' ∨ c = '-') :
  ';' ≠ c
  := by
  rcases h with rfl | rfl <;> decide

/-- Code has a semicolon as a lexeme by itself only. -/
theorem CodeState.Pending.semicolon {q : CodeState} {u : List Char} (h : Pending q u) :
  u = [';'] ∨ ';' ∉ u
  := by
  have hone : ∀ c : Char, [c] = [';'] ∨ ';' ∉ [c] := by
    intro c
    by_cases hc : c = ';'
    · exact Or.inl (by rw [hc])
    · exact Or.inr (by simpa using Ne.symm hc)
  cases h with
  | fresh => exact Or.inr List.not_mem_nil
  | blank _ hall =>
    right
    intro hmem
    exact absurd (hall _ hmem) (by decide)
  | word hc hall =>
    right
    intro hmem
    rcases List.mem_cons.mp hmem with rfl | hmem
    · exact absurd hc (by decide)
    · exact absurd (hall _ hmem) (by decide)
  | symbol => exact hone _
  | foreign => exact hone _
  | colons => exact Or.inr (by decide)
  | point => exact hone _
  | colon => exact hone _
  | operator => exact hone _
  | whole hd => exact Or.inr (semicolon_not_mem_digits hd.all)
  | fraction hs => exact Or.inr (semicolon_not_mem_significand hs)
  | letter hs hl =>
    right
    simp [semicolon_not_mem_significand hs, letter_ne_semicolon hl]
  | letterSign hs hl hsign =>
    right
    simp [semicolon_not_mem_significand hs, letter_ne_semicolon hl, sign_ne_semicolon hsign]
  | power hs hl hsign hd =>
    right
    simp [semicolon_not_mem_significand hs, letter_ne_semicolon hl, semicolon_not_mem_sign hsign,
      semicolon_not_mem_digits hd.all]

/-! ### Passages -/

/-- A text is read up to a rest of it without halting, by tokens of which none is an error and a
number are semicolons. -/
def PassesCleanly (semicolons : Nat) (text rest : List Char) : Prop :=
  ∀ offset, ∃ ts offset',
    Lexer.Yields ⟨text, offset, false⟩ ts ⟨rest, offset', false⟩
      ∧ (∀ t ∈ ts, t.kind ≠ .error) ∧ ts.countP (·.kind = .semicolon) = semicolons

theorem PassesCleanly.refl (text : List Char) :
  PassesCleanly 0 text text
  := by
  intro offset
  use [], offset, Lexer.Yields.refl _
  simp

theorem PassesCleanly.trans {m n : Nat} {text middle rest : List Char}
    (h : PassesCleanly m text middle) (h' : PassesCleanly n middle rest) :
  PassesCleanly (m + n) text rest
  := by
  intro offset
  obtain ⟨ts, offset', hy, herror, hcount⟩ := h offset
  obtain ⟨ts', offset'', hy', herror', hcount'⟩ := h' offset'
  use ts ++ ts', offset'', hy.trans hy'
  constructor
  · exact List.forall_mem_append.mpr ⟨herror, herror'⟩
  · rw [List.countP_append, hcount, hcount']

/-- A text of tokens of one kind is passed. -/
theorem Passes.cleanly {kind : TokenKind} {text rest : List Char}
    (h : Passes (·.kind = kind) text rest) (herror : kind ≠ .error)
    (hsemicolon : kind ≠ .semicolon) :
  PassesCleanly 0 text rest
  := by
  intro offset
  obtain ⟨ts, offset', hy, hkind⟩ := h offset
  use ts, offset', hy
  constructor
  · intro t ht
    rwa [hkind t ht]
  · rw [List.countP_eq_zero]
    intro t ht
    rw [hkind t ht]
    simpa using hsemicolon

/-- A pending lexeme is passed before what does not extend it. -/
theorem CodeState.Pending.passesCleanly {q : CodeState} {u rest : List Char} (hu : Pending q u)
    (hq : q.isComplete = true) (hrest : ∀ c ∈ rest.head?, q.endsBefore c = true) :
  PassesCleanly (u.count ';') (u ++ rest) rest
  := by
  by_cases hne : u = []
  · rw [hne]
    apply PassesCleanly.refl
  · obtain ⟨kind, hkind, hx⟩ := hu.lexeme?_append hne hq hrest
    have hsemicolon : kind = .semicolon ↔ u = [';'] := kind_eq_semicolon_iff hx
    have hcount : u.count ';' = if kind = .semicolon then 1 else 0 := by
      rcases hu.semicolon with hone | hfree
      · rw [if_pos (hsemicolon.mpr hone), hone, List.count_singleton_self]
      · rw [List.count_eq_zero.mpr hfree, if_neg]
        intro h
        rw [hsemicolon.mp h] at hfree
        exact hfree (List.mem_singleton_self _)
    intro offset
    refine ⟨_, _, Lexer.yields_of_lexeme? hx rfl offset, ?_, ?_⟩
    · rw [List.forall_mem_singleton]
      exact hkind
    · rw [hcount, List.countP_singleton]
      by_cases h : kind = .semicolon <;> simp [Lexer.tokenAt, h]

end SqlScribe.Sql
