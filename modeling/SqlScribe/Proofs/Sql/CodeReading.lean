import Mathlib.Data.Bool.AllAny
import SqlScribe.Proofs.Sql.Code

/-!
# Reading code

The first lexeme of a text that begins with the pending text of a `CodeState` is that text, as
long as what follows does not extend it, and it is no error
(`CodeState.Pending.lexeme?_append`).  Numbers are read as the rule for numbers says, so it is
enough that a significand cannot be made longer; everything else that begins no earlier sort
of lexeme is found among the operators, the words and the single characters.
-/

namespace SqlScribe.Sql

open Text Number

/-! ### Numbers -/

theorem isMantissa_of_isSignificand {s : List Char} (h : IsSignificand s) :
  Rule.IsMantissa s ∧ ('.' ∈ s → s.count '.' = 1)
  := by
  cases h with
  | whole hd =>
    use isMantissa_of_digits hd.all
    intro hp
    have hpoint := hd.all _ hp
    contradiction
  | point hd hf =>
    obtain ⟨hm, hcount⟩ := isMantissa_point hd.all hf
    use hm
    intro _
    exact hcount
  | fraction hd =>
    obtain ⟨hm, hcount⟩ := isMantissa_point (List.forall_mem_nil _) hd.all
    use hm
    intro _
    exact hcount

/-- A significand is as long as it can be before a character that is neither a digit nor its
first point. -/
theorem isLongestStart_significand {s rest : List Char} (h : IsSignificand s)
    (hrest : ∀ c ∈ rest.head?, c.isDigit = false ∧ (c = '.' → '.' ∈ s)) :
  IsLongestStart Rule.IsMantissa (s ++ rest) s
  := by
  obtain ⟨hm, hpoint⟩ := isMantissa_of_isSignificand h
  apply isLongestStart_mantissa hm
  intro c hc
  obtain ⟨hd, hp⟩ := hrest c hc
  use hd
  intro he
  exact hpoint (hp he)

/-- The characters with which comments and separators begin, and texts that have an end. -/
def openings : List Char :=
  ['-', '/', '\'', '"', '\x60', '[', '(', ')', ',', ';']

/-- Letters, digits, underscores and points begin none of the earlier sorts of lexemes. -/
theorem not_opening {c : Char} (h : isWordCharacter c = true ∨ c = '.') :
  isBlank c = false ∧ c ∉ openings
  := by
  constructor
  · rcases h with h | rfl
    · have hcode := toNat_of_isWordCharacter h
      simp only [isBlank, blankRuns, List.any_cons, List.any_nil, Bool.or_eq_false_iff,
        Bool.and_eq_false_iff, decide_eq_false_iff_not, and_true]
      omega
    · decide
  · intro hc
    have hall : ∀ d ∈ openings, ¬ (isWordCharacter d = true ∨ d = '.') := by
      refine List.all_iff_forall_prop.mp ?_
      decide
    exact hall c hc h

theorem isWordCharacter_of_isDigit {c : Char} (h : c.isDigit = true) :
  isWordCharacter c = true
  := by
  exact isWordCharacter_iff.mpr (Or.inr (Or.inl h))

theorem lexemeAt_of_number {c : Char} {rest : List Char}
    (h : (c.isDigit || (c == '.' && rest.head?.any Char.isDigit)) = true) :
  lexemeAt c rest = numberLexeme (c :: rest)
  := by
  have hc : isWordCharacter c = true ∨ c = '.' := by
    rcases Bool.or_eq_true_iff.mp h with h | h
    · exact Or.inl (isWordCharacter_of_isDigit h)
    · simp only [Bool.and_eq_true, beq_iff_eq] at h
      exact Or.inr h.1
  obtain ⟨hb, hs⟩ := not_opening hc
  simp only [openings, List.mem_cons, List.not_mem_nil, or_false, not_or] at hs
  rw [lexemeAt]
  simp only [hb, hs, h, beq_eq_false_iff_ne.mpr, ne_eq, not_false_eq_true, Bool.false_and,
    Bool.or_self, Bool.false_eq_true, ↓reduceIte]

/-- A text with the lexeme of a number, by the rule for numbers, begins with that lexeme. -/
theorem lexeme?_of_isNumber {text : List Char} {x : Lexeme} (h : Rule.number.applies text)
    (hx : Rule.IsNumber text x) :
  lexeme? text = some x
  := by
  cases text with
  | nil => rcases h with ⟨c, hc, -⟩ | ⟨c, rest, hc, -⟩ <;> contradiction
  | cons c rest =>
    rw [lexeme?, lexemeAt_of_number (number_applies_iff.mpr h),
      (isNumber_numberLexeme (c :: rest)).unique hx]

theorem number_applies_of_isSignificand {s : List Char} (h : IsSignificand s) (rest : List Char) :
  Rule.number.applies (s ++ rest)
  := by
  have hdigits : ∀ {digits : List Char}, IsDigits digits → ∀ more,
      ∃ c after, digits ++ more = c :: after ∧ c.isDigit = true := by
    rintro digits ⟨hne, hall⟩ more
    cases digits with
    | nil => contradiction
    | cons c digits => exact ⟨c, digits ++ more, rfl, hall c List.mem_cons_self⟩
  cases h with
  | whole hd =>
    obtain ⟨c, after, ha, hc⟩ := hdigits hd rest
    rw [ha]
    exact Or.inl ⟨c, rfl, hc⟩
  | @point digits fraction hd hf =>
    obtain ⟨c, after, ha, hc⟩ := hdigits hd ('.' :: fraction ++ rest)
    rw [List.append_assoc, ha]
    exact Or.inl ⟨c, rfl, hc⟩
  | fraction hd =>
    obtain ⟨c, after, ha, hc⟩ := hdigits hd rest
    rw [List.cons_append, ha]
    exact Or.inr ⟨c, after, rfl, hc⟩

theorem lexeme?_significand {s rest : List Char} (h : IsSignificand s)
    (hrest : ∀ c ∈ rest.head?,
      c.isDigit = false ∧ (c = '.' → '.' ∈ s) ∧ c ≠ 'e' ∧ c ≠ 'E') :
  lexeme? (s ++ rest) = some { kind := .number, text := s, rest, halts := false }
  := by
  apply lexeme?_of_isNumber (number_applies_of_isSignificand h rest)
  apply Rule.IsNumber.plain rfl
  · apply isLongestStart_significand h
    intro c hc
    exact ⟨(hrest c hc).1, (hrest c hc).2.1⟩
  · intro c hc
    exact (hrest c hc).2.2

theorem isLongestStart_sign {sign digits : List Char} (hsign : IsSign sign) (hd : IsDigits digits)
    (rest : List Char) :
  IsLongestStart (· ∈ [[], ['+'], ['-']]) (sign ++ (digits ++ rest)) sign
  := by
  apply isLongestStart_of_head
  · rcases hsign with rfl | rfl | rfl <;> simp
  · intro c more hc hlonger
    cases digits with
    | nil => exact absurd rfl hd.ne_nil
    | cons d digits =>
      cases hc
      have hdigit := hd.all c List.mem_cons_self
      rcases hsign with rfl | rfl | rfl
      · have hc : c = '+' ∨ c = '-' := by
          simp only [List.nil_append, List.mem_cons, List.cons.injEq, List.not_mem_nil, or_false,
            reduceCtorEq, false_or] at hlonger
          exact hlonger.imp And.left And.left
        rcases hc with rfl | rfl <;> contradiction
      · simp at hlonger
      · simp at hlonger

theorem lexeme?_power {s sign digits rest : List Char} {c : Char} (h : IsSignificand s)
    (hc : c = 'e' ∨ c = 'E') (hsign : IsSign sign) (hd : IsDigits digits)
    (hrest : ∀ d ∈ rest.head?, d.isDigit = false) :
  lexeme? (s ++ c :: (sign ++ digits) ++ rest)
    = some { kind := .number, text := s ++ c :: (sign ++ digits), rest, halts := false }
  := by
  have htext : s ++ c :: (sign ++ digits) ++ rest = s ++ c :: (sign ++ (digits ++ rest)) := by
    simp
  have hmantissa : IsLongestStart Rule.IsMantissa (s ++ c :: (sign ++ (digits ++ rest))) s := by
    apply isLongestStart_significand h
    intro d hd'
    cases hd'
    rcases hc with rfl | rfl
    · constructor
      · decide
      · intro hp
        contradiction
    · constructor
      · decide
      · intro hp
        contradiction
  have hdigits : IsLongestStart (fun s => ∀ c ∈ s, c.isDigit = true) (digits ++ rest) digits := by
    apply isLongestStart_of_head hd.all
    intro d more hd' hlonger
    have hdigit := hlonger d (by simp)
    rw [hrest d hd'] at hdigit
    contradiction
  have hx := Rule.IsNumber.scaled rfl hmantissa hc (isLongestStart_sign hsign hd rest) hdigits
  rw [if_neg hd.ne_nil] at hx
  rw [htext]
  apply lexeme?_of_isNumber (number_applies_of_isSignificand h _) hx

/-! ### Blank characters, words and operators -/

theorem lexeme?_blank {s rest : List Char} (hne : s ≠ []) (hs : ∀ c ∈ s, isBlank c = true)
    (hrest : ∀ c ∈ rest.head?, isBlank c = false) :
  lexeme? (s ++ rest) = some { kind := .whitespace, text := s, rest, halts := false }
  := by
  cases s with
  | nil => contradiction
  | cons c s =>
    have hsplit : splitRun isBlank (c :: (s ++ rest)) = (c :: s, rest) := splitRun_eq hs hrest
    rw [List.cons_append, lexeme?, lexemeAt, if_pos (hs c List.mem_cons_self), hsplit]
    rfl

/-- Characters that begin no earlier sort of lexeme begin an operator, a word or a single
character. -/
theorem lexemeAt_eq_plainLexeme {c : Char} {rest : List Char} (hb : isBlank c = false)
    (hd : c.isDigit = false) (hc : c ∉ openings.drop 2)
    (hh : (c = '-' → rest.head? ≠ some '-') ∧ (c = '/' → rest.head? ≠ some '*'))
    (hp : c = '.' → rest.head?.any Char.isDigit = false) :
  lexemeAt c rest = plainLexeme c rest
  := by
  simp only [openings, List.drop_succ_cons, List.drop_zero, List.mem_cons, List.not_mem_nil,
    or_false, not_or] at hc
  have hline : ¬ (c = '-' ∧ rest.head? = some '-') := fun h => hh.1 h.1 h.2
  have hblock : ¬ (c = '/' ∧ rest.head? = some '*') := fun h => hh.2 h.1 h.2
  have hp' : ¬ (c = '.' ∧ rest.head?.any Char.isDigit = true) := by
    rintro ⟨h, ht⟩
    rw [hp h] at ht
    contradiction
  simp [lexemeAt, hb, hd, hc, hline, hblock, hp']

/-- An operator that a text begins with begins with its first character. -/
theorem head?_of_mem_operators {o : String} (ho : o ∈ operators) {c : Char} {rest : List Char}
    (h : o.toList <+: c :: rest) :
  o.toList.head? = some c
  := by
  have hne := length_ne_zero_of_mem_operators o ho
  obtain ⟨more, hmore⟩ := h
  cases hl : o.toList with
  | nil =>
    rw [← String.length_toList, hl] at hne
    contradiction
  | cons d s =>
    rw [hl] at hmore
    cases hmore
    rfl

theorem operatorAt?_eq_none {c : Char} {rest : List Char}
    (h : ∀ o ∈ operators, o.toList.head? ≠ some c) :
  operatorAt? (c :: rest) = none
  := by
  apply List.find?_eq_none.mpr
  intro o ho hp
  exact h o ho (head?_of_mem_operators ho (List.isPrefixOf_iff_prefix.mp hp))

theorem operatorAt?_eq_some {text : List Char} {o : String} (h : operatorAt? text = some o) :
  o ∈ operators ∧ o.toList <+: text
  := by
  have hfind : operators.find? (fun o => o.toList.isPrefixOf text) = some o := h
  constructor
  · exact List.mem_of_find?_eq_some hfind
  · have hprefix := List.find?_some hfind
    exact List.isPrefixOf_iff_prefix.mp hprefix

/-- No operator begins with a letter, a digit, an underscore or a point. -/
theorem operators_head {o : String} (ho : o ∈ operators) {c : Char} (hc : c ∈ o.toList.head?) :
  isWordCharacter c = false ∧ c ≠ '.'
  := by
  have hall : ∀ o ∈ operators,
      (o.toList.head?.all fun c => isWordCharacter c = false ∧ c ≠ '.') = true := by
    decide
  have h := hall o ho
  rw [Option.mem_def.mp hc] at h
  exact of_decide_eq_true h

/-- An operator is the first lexeme, if its first character begins no earlier sort of lexeme. -/
theorem lexeme?_operator {c : Char} {text rest : List Char} {o : String}
    (hc : isBlank c = false ∧ c.isDigit = false ∧ c ∉ openings.drop 2 ∧ c ≠ '.')
    (hh : (c = '-' → text.head? ≠ some '-') ∧ (c = '/' → text.head? ≠ some '*'))
    (h : operatorAt? (c :: text) = some o)
    (ho : o.toList ++ rest = c :: text) :
  lexeme? (c :: text) = some { kind := .operator, text := o.toList, rest, halts := false }
  := by
  obtain ⟨hb, hd, he, hp⟩ := hc
  rw [lexeme?, lexemeAt_eq_plainLexeme hb hd he hh (fun h => absurd h hp)]
  unfold plainLexeme
  rw [h]
  simp [Lexeme.ofSplit, ← ho, ← String.length_toList]

theorem wordKind_ne_error (word : List Char) :
  wordKind word ≠ .error
  := by
  unfold wordKind
  dsimp only
  repeat' split
  all_goals decide

theorem lexeme?_word {c : Char} {s rest : List Char} (hc : (c.isAlpha || c == '_') = true)
    (hs : ∀ d ∈ s, isWordCharacter d = true)
    (hrest : ∀ d ∈ rest.head?, isWordCharacter d = false) :
  lexeme? (c :: s ++ rest)
    = some { kind := wordKind (c :: s), text := c :: s, rest, halts := false }
  := by
  have hbegins : c.isAlpha = true ∨ c = '_' := by
    rwa [Bool.or_eq_true, beq_iff_eq] at hc
  have hw : isWordCharacter c = true := isWordCharacter_iff.mpr (hbegins.imp_right Or.inr)
  obtain ⟨hb, he⟩ := not_opening (Or.inl hw)
  have hd : c.isDigit = false := by
    rcases hbegins with halpha | rfl
    · rw [isAlpha_iff] at halpha
      rw [← Bool.not_eq_true, isDigit_iff]
      omega
    · rfl
  have hnone : operatorAt? (c :: (s ++ rest)) = none := by
    apply operatorAt?_eq_none
    intro o ho hhead
    rw [(operators_head ho hhead).1] at hw
    contradiction
  have hall : ∀ d ∈ c :: s, isWordCharacter d = true := by
    intro d hd
    rcases List.mem_cons.mp hd with rfl | hd
    · exact hw
    · exact hs d hd
  have hsplit : splitRun isWordCharacter (c :: (s ++ rest)) = (c :: s, rest) :=
    splitRun_eq hall hrest
  have hplain : lexemeAt c (s ++ rest) = plainLexeme c (s ++ rest) := by
    apply lexemeAt_eq_plainLexeme hb hd
    · intro hm
      exact he (List.mem_of_mem_drop hm)
    · constructor
      · rintro rfl
        contradiction
      · rintro rfl
        contradiction
    · rintro rfl
      contradiction
  rw [List.cons_append, lexeme?, hplain, plainLexeme, hnone]
  simp only [hc, ↓reduceIte, hsplit]
  rfl

theorem plainLexeme_punctuation {c : Char} {rest : List Char} (h : operatorAt? (c :: rest) = none)
    (hw : (c.isAlpha || c == '_') = false) (hc : isPunctuation c = true) :
  plainLexeme c rest = { kind := .punctuation, text := [c], rest, halts := false }
  := by
  rw [plainLexeme, h]
  simp only [hw, hc, Bool.false_eq_true, ↓reduceIte]
  rfl

/-! ### The pending lexeme -/

namespace CodeState

/-- A character that begins no earlier sort of lexeme, no word and no longer operator is a lexeme
by itself. -/
theorem lexeme?_single {c : Char} {rest : List Char}
    (hc : isBlank c = false ∧ c.isDigit = false ∧ c ∉ openings.drop 2 ∧ c ≠ '.')
    (hp : (c.isAlpha || c == '_') = false ∧ isPunctuation c = true)
    (hh : (c = '-' → rest.head? ≠ some '-') ∧ (c = '/' → rest.head? ≠ some '*'))
    (ho : ∀ o ∈ operators, o.toList <+: c :: rest → o.toList = [c]) :
  ∃ kind, kind ≠ .error ∧ lexeme? (c :: rest) = some { kind, text := [c], rest, halts := false }
  := by
  cases hat : operatorAt? (c :: rest) with
  | some o =>
    obtain ⟨hmem, hprefix⟩ := operatorAt?_eq_some hat
    have ho := ho o hmem hprefix
    use .operator, by decide
    rw [← ho]
    exact lexeme?_operator hc hh hat (by rw [ho]; rfl)
  | none =>
    obtain ⟨hb, hd, he, hpoint⟩ := hc
    use .punctuation, by decide
    rw [lexeme?, lexemeAt_eq_plainLexeme hb hd he hh (fun h => absurd h hpoint),
      plainLexeme_punctuation hat hp.1 hp.2]

theorem lexeme?_symbol {c : Char} (hc : c ∈ symbols) (rest : List Char) :
  ∃ kind, kind ≠ .error ∧ lexeme? (c :: rest) = some { kind, text := [c], rest, halts := false }
  := by
  have hlonger : ∀ {c : Char}, (∀ o ∈ operators, o.toList.head? = some c → o.toList = [c]) →
      ∀ o ∈ operators, o.toList <+: c :: rest → o.toList = [c] := by
    intro c h o ho hprefix
    exact h o ho (head?_of_mem_operators ho hprefix)
  simp only [symbols, List.mem_cons, List.not_mem_nil, or_false] at hc
  rcases hc with rfl | rfl | rfl | rfl | hc
  · exact ⟨.parenthesis, by decide, rfl⟩
  · exact ⟨.parenthesis, by decide, rfl⟩
  · exact ⟨.comma, by decide, rfl⟩
  · exact ⟨.semicolon, by decide, rfl⟩
  · rcases hc with rfl | rfl | rfl | rfl | rfl | rfl | rfl | rfl | rfl | rfl
    all_goals exact lexeme?_single (by decide) (by decide) (by simp) (hlonger (by decide))

/-- An operator is a lexeme by itself before what no longer one goes on with. -/
theorem lexeme?_operatorStart {c : Char} (hc : c ∈ operatorStarts) {rest : List Char}
    (hrest : ∀ d ∈ rest.head?, d ∉ operatorNexts) :
  ∃ kind, kind ≠ .error ∧ lexeme? (c :: rest) = some { kind, text := [c], rest, halts := false }
  := by
  have hlonger : ∀ o ∈ operators, o.toList <+: c :: rest → o.toList = [c] := by
    have hsecond : ∀ o ∈ operators, o.toList.head?.any (operatorStarts.contains ·) = true →
        o.toList.length = 1 ∨ o.toList[1]?.any (operatorNexts.contains ·) = true := by
      decide
    intro o ho hprefix
    have hstart : o.toList.head?.any (operatorStarts.contains ·) = true := by
      rw [head?_of_mem_operators ho hprefix]
      exact List.contains_iff_mem.mpr hc
    rcases hsecond o ho hstart with hlength | hnext
    · exact (List.prefix_iff_eq_take.mp hprefix).trans (by rw [hlength]; rfl)
    · obtain ⟨d, hd, hmem⟩ := (Option.any_eq_true _ _).mp hnext
      have hat := List.prefix_iff_getElem?.mp hprefix 1 (List.getElem?_eq_some_iff.mp hd).1
      rw [← List.getElem?_eq_getElem, hd, List.getElem?_cons_succ, ← List.head?_eq_getElem?] at hat
      exact absurd (List.contains_iff_mem.mp hmem) (hrest d hat)
  have hcomment : (c = '-' → rest.head? ≠ some '-') ∧ (c = '/' → rest.head? ≠ some '*') := by
    constructor
    · intro _ hd
      exact hrest _ hd (by decide)
    · intro _ hd
      exact hrest _ hd (by decide)
  simp only [operatorStarts, List.mem_cons, List.not_mem_nil, or_false] at hc
  rcases hc with rfl | rfl | rfl | rfl | rfl | rfl | rfl | rfl | rfl | rfl
  all_goals exact lexeme?_single (by decide) (by decide) hcomment hlonger

/-- A character outside of ASCII is a lexeme by itself, unless it is blank. -/
theorem lexeme?_foreign {c : Char} (hc : 0x80 ≤ c.toNat) (hb : isBlank c = false)
    (rest : List Char) :
  lexeme? (c :: rest) = some { kind := .other, text := [c], rest, halts := false }
  := by
  have hascii : ∀ e : Char, e.toNat < 0x80 → c ≠ e := by
    rintro e he rfl
    omega
  have hoperator : operatorAt? (c :: rest) = none := by
    have hheads : ∀ o ∈ operators, o.toList.head?.all (·.toNat < 0x80) = true := by decide
    apply operatorAt?_eq_none
    intro o ho hhead
    have hcode := hheads o ho
    rw [hhead, Option.all_some, decide_eq_true_iff] at hcode
    exact hascii c hcode rfl
  have hdigit : c.isDigit = false := by
    rw [← Bool.not_eq_true, isDigit_iff]
    omega
  have hword : (c.isAlpha || c == '_') = false := by
    rw [Bool.or_eq_false_iff, ← Bool.not_eq_true, isAlpha_iff, beq_eq_false_iff_ne]
    constructor
    · omega
    · exact hascii '_' (by decide)
  have hpunctuation : isPunctuation c = false := by
    have hlast : ¬ c ≤ '~' := by
      intro hle
      have hcode : c.toNat ≤ 0x7E := UInt32.le_iff_toNat_le.mp hle
      omega
    simp [isPunctuation, hlast]
  have hopenings : c ∉ openings.drop 2 := by
    intro hmem
    have hcodes : (openings.drop 2).all (·.toNat < 0x80) = true := by decide
    exact hascii c (of_decide_eq_true (List.all_eq_true.mp hcodes c hmem)) rfl
  have hplain : lexemeAt c rest = plainLexeme c rest :=
    lexemeAt_eq_plainLexeme hb hdigit hopenings
      ⟨fun h => absurd h (hascii '-' (by decide)), fun h => absurd h (hascii '/' (by decide))⟩
      (fun h => absurd h (hascii '.' (by decide)))
  rw [lexeme?, hplain, plainLexeme, hoperator]
  simp only [hword, hpunctuation, Bool.false_eq_true, ↓reduceIte]
  rfl

theorem lexeme?_colons (rest : List Char) :
  lexeme? (':' :: ':' :: rest)
    = some { kind := .operator, text := [':', ':'], rest, halts := false }
  := by
  have ho : operatorAt? (':' :: ':' :: rest) = some "::" := by simp [operatorAt?, operators]
  exact lexeme?_operator (by decide) (by simp) ho rfl

theorem lexeme?_colon {rest : List Char} (hrest : ∀ c ∈ rest.head?, c ≠ ':' ∧ c ≠ '=') :
  lexeme? (':' :: rest) = some { kind := .punctuation, text := [':'], rest, halts := false }
  := by
  have ho : operatorAt? (':' :: rest) = none := by
    cases rest with
    | nil => rfl
    | cons c rest =>
      have hc := hrest c rfl
      simp [operatorAt?, operators, @eq_comm _ ':' c, @eq_comm _ '=' c, hc]
  rw [lexeme?, lexemeAt_eq_plainLexeme (by decide) (by decide) (by decide) (by simp) (by simp),
    plainLexeme_punctuation ho (by decide) (by decide)]

theorem lexeme?_point {rest : List Char} (hrest : ∀ c ∈ rest.head?, c.isDigit = false) :
  lexeme? ('.' :: rest) = some { kind := .punctuation, text := ['.'], rest, halts := false }
  := by
  have ho : operatorAt? ('.' :: rest) = none := by
    apply operatorAt?_eq_none
    intro o ho hhead
    exact (operators_head ho hhead).2 rfl
  have hd : rest.head?.any Char.isDigit = false := by
    cases rest with
    | nil => rfl
    | cons c rest => exact hrest c rfl
  rw [lexeme?, lexemeAt_eq_plainLexeme (by decide) (by decide) (by decide) (by simp)
    (fun _ => hd), plainLexeme_punctuation ho (by decide) (by decide)]

/-- The pending text is the first lexeme, and no error, if it is complete and what follows does
not extend it. -/
theorem Pending.lexeme?_append {q : CodeState} {u rest : List Char} (hu : Pending q u)
    (hne : u ≠ []) (hq : q.isComplete = true) (hrest : ∀ c ∈ rest.head?, q.endsBefore c = true) :
  ∃ kind, kind ≠ .error
    ∧ lexeme? (u ++ rest) = some { kind, text := u, rest, halts := false }
  := by
  cases hu with
  | fresh => contradiction
  | blank _ hall =>
    use .whitespace, by decide
    apply lexeme?_blank hne hall
    simpa [endsBefore] using hrest
  | word hc hall =>
    refine ⟨_, wordKind_ne_error _, lexeme?_word hc hall ?_⟩
    simpa [endsBefore] using hrest
  | symbol hc => exact lexeme?_symbol hc rest
  | foreign hc hb =>
    use .other, by decide
    exact lexeme?_foreign hc hb rest
  | colons =>
    use .operator, by decide
    apply lexeme?_colons
  | point =>
    use .punctuation, by decide
    apply lexeme?_point
    simpa [endsBefore] using hrest
  | colon =>
    use .punctuation, by decide
    apply lexeme?_colon
    simpa [endsBefore] using hrest
  | operator hc =>
    apply lexeme?_operatorStart hc
    simpa [endsBefore] using hrest
  | whole hd =>
    use .number, by decide
    apply lexeme?_significand (.whole hd)
    intro c hc
    have he := hrest c hc
    simp only [endsBefore, isLetter, Bool.and_eq_true, Bool.not_eq_true', Bool.or_eq_false_iff,
      bne_iff_ne, beq_eq_false_iff_ne] at he
    exact ⟨he.1.1, fun hp => absurd hp he.1.2, he.2⟩
  | fraction hs hp =>
    use .number, by decide
    apply lexeme?_significand hs
    intro c hc
    have he := hrest c hc
    simp only [endsBefore, isLetter, Bool.and_eq_true, Bool.not_eq_true', Bool.or_eq_false_iff,
      beq_eq_false_iff_ne] at he
    exact ⟨he.1, fun _ => hp, he.2⟩
  | letter => contradiction
  | letterSign => contradiction
  | power hs hc hsign hd =>
    use .number, by decide
    apply lexeme?_power hs hc hsign hd
    simpa [endsBefore] using hrest

end CodeState

end SqlScribe.Sql
