import SqlScribe.Proofs.Statement.Tokens

/-!
# From state to state

How the check of statements is put together.  Fragments lead from some states to others
(`Leads`) when from each of the former they pass the check and come to one of the latter.  Most
fragments of a statement lead from complete states to open ones, in which names, words and
numbers can begin, or back.  For fixed code this is decided by running through it;
numerals, words and quoted texts have a lemma each.
-/

namespace SqlScribe.Sql.CodeState

open Text Number

/-- Whether a word or a number can begin. -/
def isOpen : CodeState → Bool
  | blank | symbol => true
  | _ => false

/-- Characters that keep a state keep it however many they are. -/
theorem run?_of_forall {q : CodeState} {s : List Char} (h : ∀ c ∈ s, q.step? c = some q) :
  q.run? s = some q
  := by
  induction s with
  | nil => rfl
  | cons c s ih =>
    rw [run?, List.foldlM_cons, h c List.mem_cons_self]
    apply ih
    intro d hd
    exact h d (List.mem_cons_of_mem c hd)

/-- Some digits lead from a state to the state that each of them leads to and keeps. -/
theorem run?_digits {q q' : CodeState} {s : List Char} (h : IsDigits s)
    (hstep : ∀ c, c.isDigit = true → q.step? c = some q')
    (hkeep : ∀ c, c.isDigit = true → q'.step? c = some q') :
  q.run? s = some q'
  := by
  obtain ⟨hne, hall⟩ := h
  cases s with
  | nil => contradiction
  | cons c s =>
    rw [run?, List.foldlM_cons, hstep c (hall c List.mem_cons_self)]
    apply run?_of_forall
    intro d hd
    exact hkeep d (hall d (List.mem_cons_of_mem c hd))

/-! ### Numerals -/

/-- The states before the digits of a number. -/
def precedesDigits (q : CodeState) : Bool :=
  q.isOpen || q == operator

theorem step?_of_precedesDigits {q : CodeState} (hq : q.precedesDigits = true) {c : Char}
    (h : c.isDigit = true) :
  q.step? c = some whole
  := by
  have hb : isBlank c = false := (not_opening (Or.inl (isWordCharacter_of_isDigit h))).1
  have hstart : start? c = some whole := by
    rw [start?, hb, h]
    rfl
  have hnext : c ∉ operatorNexts := by
    intro hmem
    have hall : operatorNexts.all (!·.isDigit) = true := by decide
    have hdigit := List.all_eq_true.mp hall c hmem
    rw [h] at hdigit
    contradiction
  have hends : q.endsBefore c = true := by
    cases q with
    | blank => simp [endsBefore, hb]
    | symbol => rfl
    | operator => simp [endsBefore, hnext]
    | _ => contradiction
  rw [step?, hends, if_pos rfl, hstart]

/-- The state after a digit, where a digit extends the lexeme. -/
def afterDigit : CodeState → CodeState
  | whole => whole
  | point | fraction => fraction
  | letter | letterSign | power => power
  | q => q

theorem step?_digit {q : CodeState} (hq : q ∈ [whole, point, fraction, letter, letterSign, power])
    {c : Char} (h : c.isDigit = true) :
  q.step? c = some q.afterDigit
  := by
  simp only [List.mem_cons, List.not_mem_nil, or_false] at hq
  rcases hq with rfl | rfl | rfl | rfl | rfl | rfl <;>
    simp [step?, endsBefore, extend?, afterDigit, h]

/-- A significand leads to a number without an exponent. -/
theorem run?_significand {q : CodeState} (hq : q.precedesDigits = true) {s : List Char}
    (h : IsSignificand s) :
  ∃ q', q.run? s = some q' ∧ (q' = whole ∨ q' = fraction)
  := by
  have hpoint : q.step? '.' = some point := by
    revert hq
    cases q <;> decide
  have hwhole : ∀ {digits : List Char}, IsDigits digits → q.run? digits = some whole := by
    intro digits hd
    apply run?_digits hd (fun _ => step?_of_precedesDigits hq)
    intro c hc
    exact step?_digit (by decide) hc
  cases h with
  | whole hd => exact ⟨whole, hwhole hd, Or.inl rfl⟩
  | @point digits more hd hf =>
    have hmore : fraction.run? more = some fraction := by
      apply run?_of_forall
      intro c hc
      exact step?_digit (by decide) (hf c hc)
    use fraction
    constructor
    · rw [run?_append, hwhole hd]
      exact hmore
    · exact Or.inr rfl
  | @fraction digits hd =>
    have hmore : point.run? digits = some fraction := by
      apply run?_digits hd
      · intro c hc
        exact step?_digit (by decide) hc
      · intro c hc
        exact step?_digit (by decide) hc
    use fraction
    constructor
    · rw [run?, List.foldlM_cons, hpoint]
      exact hmore
    · exact Or.inr rfl

theorem run?_exponent {q : CodeState} (hq : q = whole ∨ q = fraction) {s : List Char}
    (h : IsExponent s) :
  ∃ q', q.run? s = some q' ∧ q'.isComplete = true
  := by
  cases h with
  | none =>
    use q, rfl
    rcases hq with rfl | rfl <;> rfl
  | @some c sign digits hc hsign hd =>
    have hletter : q.step? c = some letter := by
      rcases hq with rfl | rfl <;> rcases hc with rfl | rfl <;> decide
    have hpower : ∀ {q : CodeState}, q = letter ∨ q = letterSign → q.run? digits = some power := by
      rintro q (rfl | rfl)
      all_goals
        apply run?_digits hd
        · intro c hc
          exact step?_digit (by decide) hc
        · intro c hc
          exact step?_digit (by decide) hc
    use power
    constructor
    · rw [run?, List.foldlM_cons, hletter]
      rcases hsign with rfl | rfl | rfl
      · exact hpower (Or.inl rfl)
      · exact hpower (Or.inr rfl)
      · exact hpower (Or.inr rfl)
    · rfl

/-- A numeral leads from an open state to a complete one. -/
theorem run?_numeral {q : CodeState} (hq : q.isOpen = true) {s : List Char} (h : IsNumeral s) :
  ∃ q', q.run? s = some q' ∧ q'.isComplete = true
  := by
  obtain @⟨sign, significand, exponent, hsign, hs, he⟩ := h
  have hstart : ∃ q', q.run? sign = some q' ∧ q'.precedesDigits = true := by
    rcases hsign with rfl | rfl | rfl
    · use q, rfl
      simp [precedesDigits, hq]
    · use CodeState.operator
      revert hq
      cases q <;> decide
    · use CodeState.operator
      revert hq
      cases q <;> decide
  obtain ⟨q₁, hrun₁, hq₁⟩ := hstart
  obtain ⟨q₂, hrun₂, hq₂⟩ := run?_significand hq₁ hs
  obtain ⟨q₃, hrun₃, hq₃⟩ := run?_exponent hq₂ he
  use q₃
  rw [run?_append, hrun₁, Option.bind_some, run?_append, hrun₂, Option.bind_some]
  exact ⟨hrun₃, hq₃⟩

/-! ### Words -/

theorem step?_word {c : Char} (h : isWordCharacter c = true) :
  word.step? c = some word
  := by
  simp [step?, endsBefore, extend?, h]

/-- Letters, digits and underscores continue a word. -/
theorem run?_word {s : List Char} (h : ∀ c ∈ s, isWordCharacter c = true) :
  word.run? s = some word
  := run?_of_forall fun c hc => step?_word (h c hc)

end SqlScribe.Sql.CodeState

namespace SqlScribe.Statement

open Sql Text.Quoted

/-- From each of some states the fragments pass the check and come to one of other states. -/
def Leads (d : Dialect) (P : CodeState → Bool) (fragments : List Fragment)
    (Q : CodeState → Bool) : Prop :=
  ∀ q, P q = true → ∃ q', check? d q fragments = some q' ∧ Q q' = true

variable {d : Dialect} {P Q R : CodeState → Bool}

theorem leads_nil (h : ∀ q ∈ CodeState.all, P q = true → Q q = true) :
  Leads d P [] Q
  := by
  intro q hq
  use q, rfl
  exact h q q.mem_all hq

theorem Leads.append {a b : List Fragment} (ha : Leads d P a Q) (hb : Leads d Q b R) :
  Leads d P (a ++ b) R
  := by
  intro q hq
  obtain ⟨q', hrun, hq'⟩ := ha q hq
  obtain ⟨q'', hrun', hq''⟩ := hb q' hq'
  use q''
  rw [check?_append, hrun]
  exact ⟨hrun', hq''⟩

theorem Leads.cons {f : Fragment} {fragments : List Fragment} (hf : Leads d P [f] Q)
    (hfs : Leads d Q fragments R) :
  Leads d P (f :: fragments) R
  := hf.append hfs

/-- Less is asked of the states before, and more is known of those after. -/
theorem Leads.mono {P' Q' : CodeState → Bool} {fragments : List Fragment}
    (h : Leads d P fragments Q) (hP : ∀ q ∈ CodeState.all, P' q = true → P q = true)
    (hQ : ∀ q ∈ CodeState.all, Q q = true → Q' q = true) :
  Leads d P' fragments Q'
  := by
  intro q hq
  obtain ⟨q', hrun, hq'⟩ := h q (hP q q.mem_all hq)
  use q', hrun
  exact hQ q' q'.mem_all hq'

theorem check?_code (d : Dialect) (q : CodeState) (s : String) :
  check? d q [.code s] = q.run? s.toList
  := by
  rw [check?_cons]
  exact Option.bind_fun_some _

/-- Code leads to the states that its characters run to. -/
theorem leads_code_iff {s : String} :
  Leads d P [.code s] Q ↔ ∀ q, P q = true → ∃ q', q.run? s.toList = some q' ∧ Q q' = true
  := by
  simp only [Leads, check?_code]

/-- Fixed code is checked by running through it. -/
theorem leads_fixed {s : String}
    (h : ∀ q ∈ CodeState.all, P q = true → (q.run? s.toList).any Q = true) :
  Leads d P [.code s] Q
  := by
  apply leads_code_iff.mpr
  intro q hq
  exact (Option.any_eq_true _ _).mp (h q q.mem_all hq)

/-- Code is checked part by part. -/
theorem leads_code_append {a b : String} (ha : Leads d P [.code a] Q) (hb : Leads d Q [.code b] R) :
  Leads d P [.code (a ++ b)] R
  := by
  apply leads_code_iff.mpr
  intro q hq
  obtain ⟨q', hrun, hq'⟩ := leads_code_iff.mp ha q hq
  obtain ⟨q'', hrun', hq''⟩ := leads_code_iff.mp hb q' hq'
  use q''
  rw [String.toList_append, CodeState.run?_append, hrun]
  exact ⟨hrun', hq''⟩

theorem leads_numeral {s : String} (h : Number.IsNumeral s.toList) :
  Leads d CodeState.isOpen [.code s] CodeState.isComplete
  := by
  apply leads_code_iff.mpr
  intro q hq
  exact CodeState.run?_numeral hq h

/-- Code that begins a word is continued by letters, digits and underscores. -/
theorem leads_word {a b : String}
    (ha : ∀ q ∈ CodeState.all, q.isOpen = true → q.run? a.toList = some .word)
    (hb : ∀ c ∈ b.toList, isWordCharacter c = true) :
  Leads d CodeState.isOpen [.code (a ++ b)] CodeState.isComplete
  := by
  apply leads_code_iff.mpr
  intro q hq
  use .word
  rw [String.toList_append, CodeState.run?_append, ha q q.mem_all hq, Option.bind_some,
    CodeState.run?_word hb]
  exact ⟨rfl, rfl⟩

theorem leads_quoted {f : Fragment} {style : Style} {kind : TokenKind} {text : List Char}
    (hf : f.quoted? d = some (style, kind, text)) (h : IsHarmless style text) :
  Leads d CodeState.isComplete [f] CodeState.isComplete
  := by
  intro q hq
  use .fresh
  constructor
  · have hchecked : Fragment.check?.checkQuoted? q style text = some .fresh := if_pos ⟨hq, h⟩
    rw [check?_cons]
    cases f with
    | code => contradiction
    | identifier name =>
      cases hf
      rw [Fragment.check?, hchecked]
      rfl
    | literal s =>
      cases hf
      rw [Fragment.check?, hchecked]
      rfl
  · rfl

theorem leads_identifier {name : String} (h : '\\' ∉ name.toList) :
  Leads d CodeState.isComplete [.identifier name] CodeState.isComplete
  := leads_quoted rfl (Or.inr h)

theorem leads_literal {text : String} (h : d = .mySql ∨ '\\' ∉ text.toList) :
  Leads d CodeState.isComplete [.literal text] CodeState.isComplete
  := by
  apply leads_quoted rfl
  rcases h with rfl | h
  · exact Or.inl rfl
  · exact Or.inr h

/-- Parts that all lead from some states to others, with a separator that leads back. -/
theorem leads_separatedBy {separator : String} {parts : List (List Fragment)}
    (hPQ : ∀ q ∈ CodeState.all, P q = true → Q q = true)
    (hseparator : Leads d Q [.code separator] P) (hparts : ∀ part ∈ parts, Leads d P part Q) :
  Leads d P (separatedBy separator parts) Q
  := by
  induction parts with
  | nil => exact leads_nil hPQ
  | cons part parts ih =>
    have hpart := hparts part List.mem_cons_self
    have hrest : ∀ p ∈ parts, Leads d P p Q := by
      intro p hp
      exact hparts p (List.mem_cons_of_mem part hp)
    cases parts with
    | nil =>
      rw [separatedBy, List.intercalate_singleton]
      exact hpart
    | cons next parts =>
      rw [separatedBy, List.intercalate_cons_cons, List.append_assoc]
      exact hpart.append (hseparator.append (ih hrest))

end SqlScribe.Statement
