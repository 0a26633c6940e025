import Mathlib.Tactic.FinCases
import SqlScribe.Proofs.Sql.Alphabet
import SqlScribe.Proofs.Sql.Place
import SqlScribe.Proofs.Sql.Rule

/-!
# Reading follows the rules

The lexeme that is cut off a text is the one that the first rule for the text gives
(`lexeme?_eq_some_iff`).  The functions that look for an end go through the text character by
character; `FindsFirstEnd` is what each of them preserves, and for quoted texts the flag
that is carried along says whether the number of backslashes read last is odd.  A number
is the longest mantissa because one more character would be no digit, or a second point, and
the operators are listed with the longer ones first.
-/

namespace SqlScribe.Sql

open Text

/-! ### First ends -/

theorem findsFirstEnd_throughCommentEnd? (text : List Char) :
  FindsFirstEnd (fun _ => True) ['*', '/'] text (throughCommentEnd? text)
  := by
  induction text with
  | nil => apply findsFirstEnd_nil (by simp)
  | cons c rest ih =>
    rw [throughCommentEnd?]
    split
    · next h =>
      cases rest with
      | nil => simp at h
      | cons d rest =>
        simp only [List.head?_cons, Bool.and_eq_true, beq_iff_eq, Option.some.injEq] at h
        obtain ⟨rfl, rfl⟩ := h
        apply findsFirstEnd_here ['*', '/'] rest trivial
    · next h =>
      apply findsFirstEnd_later _ ih
      rintro ⟨after, ha⟩
      cases ha
      simp at h

theorem findsFirstEnd_throughBracket? (text : List Char) :
  FindsFirstEnd (fun _ => True) [']'] text (throughBracket? text)
  := by
  induction text with
  | nil => apply findsFirstEnd_nil (by simp)
  | cons c rest ih =>
    rw [throughBracket?]
    split
    · next h =>
      obtain rfl := beq_iff_eq.mp h
      apply findsFirstEnd_here [']'] rest trivial
    · next h =>
      apply findsFirstEnd_later _ ih
      rintro ⟨after, ha⟩
      cases ha
      simp at h

/-- Whether a text ends in an odd number of backslashes, so that they escape the next
character. -/
def endsEscaping (text : List Char) : Bool :=
  Rule.backslashesAtEnd text % 2 = 1

/-- One more character makes the text end in an escape exactly when it is a backslash that
is not escaped itself. -/
theorem endsEscaping_concat (text : List Char) (c : Char) :
  endsEscaping (text ++ [c]) = (c == '\\' && !endsEscaping text)
  := by
  by_cases hc : c = '\\'
  · subst hc
    have h : Rule.backslashesAtEnd (text ++ ['\\']) = Rule.backslashesAtEnd text + 1 := by
      simp [Rule.backslashesAtEnd]
    simp only [endsEscaping, h, beq_self_eq_true, Bool.true_and, ← decide_not, decide_eq_decide]
    omega
  · simp [endsEscaping, Rule.backslashesAtEnd, hc]

/-- After a text that has been read, the first end is the first mark after an even number of
backslashes. -/
theorem findsFirstEnd_throughMark? (mark : Char) (text read : List Char) :
  FindsFirstEnd (fun body => endsEscaping (read ++ body) = false) [mark] text
    (throughMark? mark (endsEscaping read) text)
  := by
  induction text generalizing read with
  | nil => apply findsFirstEnd_nil (by simp)
  | cons c rest ih =>
    rw [throughMark?]
    split
    · next h =>
      simp only [Bool.and_eq_true, beq_iff_eq, Bool.not_eq_true'] at h
      obtain ⟨rfl, h⟩ := h
      apply findsFirstEnd_here [c] rest
      simpa using h
    · next h =>
      rw [← endsEscaping_concat]
      have ih := ih (read ++ [c])
      simp only [List.append_assoc, List.cons_append, List.nil_append] at ih
      apply findsFirstEnd_later _ ih
      rintro ⟨after, ha⟩ hcl
      cases ha
      simp_all

theorem findsFirstEnd_throughMark?_start (mark : Char) (text : List Char) :
  FindsFirstEnd (fun body => Rule.backslashesAtEnd body % 2 = 0) [mark] text
    (throughMark? mark false text)
  := by
  have h := findsFirstEnd_throughMark? mark text []
  have hcl : (fun body => endsEscaping ([] ++ body) = false)
      = fun body => Rule.backslashesAtEnd body % 2 = 0 := by
    funext body
    simp [endsEscaping]
  rwa [hcl] at h

namespace Rule

/-- What is cut off through a first end, or for the lack of one, follows the rule. -/
theorem delimited_cuts_delimited {kind : TokenKind} {opening mark content : List Char}
    {closes : List Char → Prop} {found : Option (List Char × List Char)}
    (h : FindsFirstEnd closes mark content found) :
  (delimited kind opening mark closes).cuts (opening ++ content)
    (Lexeme.delimited kind opening content found)
  := by
  use content, rfl
  cases found with
  | none =>
    right
    use h
    rfl
  | some s =>
    obtain ⟨start, after⟩ := s
    obtain ⟨body, rfl, hf⟩ := h
    left
    use body, after, hf
    simp [Lexeme.delimited]

/-! ### Longest starts -/

/-- The run of a test follows the rule for the longest start of characters with a property
that says the same. -/
theorem longest_cuts_splitRun {applies P : List Char → Prop} {kind : List Char → TokenKind}
    {p : Char → Bool} (h : P = fun s => ∀ c ∈ s, p c = true) (text : List Char) :
  (longest applies P kind).cuts text
    (Lexeme.ofSplit (kind (splitRun p text).1) (splitRun p text))
  := by
  subst h
  use (splitRun_append text).symm, isLongestStart_splitRun p text, rfl
  rfl

/-- The first character of a text follows the rule for the longest start of which it is
one, if all such starts have one character. -/
theorem longest_cuts_first {applies P : List Char → Prop} {kind : List Char → TokenKind}
    {c : Char} (rest : List Char) (hc : P [c]) (hP : ∀ s, P s → s.length = 1) :
  (longest applies P kind).cuts (c :: rest) (Lexeme.ofSplit (kind [c]) ([c], rest))
  := by
  use rfl
  constructor
  · constructor
    · use rest
      rfl
    · exact hc
    · intro other _ ho
      rw [hP other ho]
      rfl
  · use rfl
    rfl

theorem single_cuts (c : Char) (kind : TokenKind) (rest : List Char) :
  (single c kind).cuts (c :: rest) (Lexeme.ofSplit kind ([c], rest))
  := by
  apply longest_cuts_first (P := fun s => s = [c]) rest rfl
  rintro s rfl
  rfl

end Rule

/-! ### Numbers -/

theorem count_point_of_digits {s : List Char} (h : ∀ c ∈ s, c.isDigit = true) :
  s.count '.' = 0
  := by
  apply List.count_eq_zero.mpr
  intro hp
  have hd := h '.' hp
  contradiction

theorem isMantissa_of_digits {s : List Char} (h : ∀ c ∈ s, c.isDigit = true) :
  Rule.IsMantissa s
  := by
  constructor
  · intro c hc
    exact Or.inl (h c hc)
  · rw [count_point_of_digits h]
    apply Nat.zero_le

theorem isMantissa_point {whole fraction : List Char} (hw : ∀ c ∈ whole, c.isDigit = true)
    (hf : ∀ c ∈ fraction, c.isDigit = true) :
  Rule.IsMantissa (whole ++ '.' :: fraction) ∧ (whole ++ '.' :: fraction).count '.' = 1
  := by
  have hcount : (whole ++ '.' :: fraction).count '.' = 1 := by
    rw [List.count_append, List.count_cons_self, count_point_of_digits hw,
      count_point_of_digits hf]
  constructor
  · constructor
    · intro c hc
      rcases List.mem_append.mp hc with hc | hc
      · exact Or.inl (hw c hc)
      rcases List.mem_cons.mp hc with rfl | hc
      · exact Or.inr rfl
      · exact Or.inl (hf c hc)
    · exact hcount.le
  · exact hcount

/-- A mantissa is as long as it can be before a character that is neither a digit nor its first
point. -/
theorem isLongestStart_mantissa {s rest : List Char} (hs : Rule.IsMantissa s)
    (hrest : ∀ c ∈ rest.head?, c.isDigit = false ∧ (c = '.' → s.count '.' = 1)) :
  IsLongestStart Rule.IsMantissa (s ++ rest) s
  := by
  apply isLongestStart_of_head hs
  intro c more hc hlonger
  obtain ⟨hd, hp⟩ := hrest c hc
  rcases hlonger.1 c (by simp) with h | h
  · rw [hd] at h
    contradiction
  · have hcount := hlonger.2
    rw [List.count_append, h, List.count_cons_self, hp h] at hcount
    omega

/-- Digits with at most one point among them are split off as far as they go. -/
theorem isLongestStart_splitNumber (text : List Char) :
  IsLongestStart Rule.IsMantissa text (splitNumber text).1
  := by
  have happend := splitNumber_append text
  have hwhole : ∀ c ∈ (splitRun Char.isDigit text).1, c.isDigit = true :=
    List.all_eq_true.mp (splitRun_fst_all text)
  have hrest := head?_splitRun_snd (p := Char.isDigit) text
  have hlongest : IsLongestStart Rule.IsMantissa
      ((splitNumber text).1 ++ (splitNumber text).2) (splitNumber text).1 := by
    unfold splitNumber
    generalize splitRun Char.isDigit text = parts at hwhole hrest
    obtain ⟨whole, rest⟩ := parts
    dsimp only at hwhole hrest ⊢
    split
    · next more =>
      have hfraction : ∀ c ∈ (splitRun Char.isDigit more).1, c.isDigit = true :=
        List.all_eq_true.mp (splitRun_fst_all more)
      obtain ⟨hm, hcount⟩ := isMantissa_point hwhole hfraction
      apply isLongestStart_mantissa hm
      intro c hc
      use head?_splitRun_snd more c hc
      intro _
      exact hcount
    · next hpoint =>
      apply isLongestStart_mantissa (isMantissa_of_digits hwhole)
      intro c hc
      use hrest c hc
      rintro rfl
      obtain ⟨more, rfl⟩ := List.head?_eq_some_iff.mp hc
      exact absurd rfl (hpoint more)
  rwa [happend] at hlongest

theorem isLongestStart_splitSign (text : List Char) :
  IsLongestStart (· ∈ [[], ['+'], ['-']]) text (splitSign text).1
  := by
  cases text with
  | nil =>
    rw [splitSign]
    constructor
    · apply List.nil_prefix
    · simp
    · intro other ho _
      rw [List.prefix_nil.mp ho]
  | cons c rest =>
    rw [splitSign]
    split
    · next h =>
      constructor
      · use rest
        rfl
      · simpa using h
      · intro other _ ho
        simp only [List.mem_cons, List.not_mem_nil, or_false] at ho
        rcases ho with rfl | rfl | rfl <;> simp
    · next h =>
      constructor
      · apply List.nil_prefix
      · simp
      · rintro other ⟨more, hm⟩ ho
        simp only [List.mem_cons, List.not_mem_nil, or_false] at ho
        rcases ho with rfl | rfl | rfl
        · rfl
        · cases hm
          simp at h
        · cases hm
          simp at h

/-- The number at the start of a text follows the rule for numbers. -/
theorem isNumber_numberLexeme (text : List Char) :
  Rule.IsNumber text (numberLexeme text)
  := by
  have happend := splitNumber_append text
  have hlongest := isLongestStart_splitNumber text
  unfold numberLexeme
  generalize splitNumber text = parts at happend hlongest
  obtain ⟨mantissa, rest⟩ := parts
  dsimp only at happend hlongest ⊢
  split
  · apply Rule.IsNumber.plain happend.symm hlongest
    intro c hc
    contradiction
  · next c more =>
    split
    · next h =>
      have hsign := splitSign_append more
      have hdigits := splitRun_append (p := Char.isDigit) (splitSign more).2
      have hs := isLongestStart_splitSign more
      have hd := isLongestStart_splitRun Char.isDigit (splitSign more).2
      generalize hsplit : splitSign more = parts at hsign hdigits hs hd
      obtain ⟨sign, afterSign⟩ := parts
      dsimp only at hsign hdigits hs hd ⊢
      generalize splitRun Char.isDigit afterSign = parts at hdigits hd
      obtain ⟨digits, after⟩ := parts
      dsimp only at hdigits hd ⊢
      subst hdigits hsign
      have hletter : c = 'e' ∨ c = 'E' := by simpa using h
      have hx := Rule.IsNumber.scaled happend.symm hlongest hletter hs hd
      simpa using hx
    · next h =>
      apply Rule.IsNumber.plain happend.symm hlongest
      intro d hd
      cases hd
      simpa using h

/-! ### Operators, words and other characters -/

/-- The longer operators come first. -/
theorem pairwise_operators :
  operators.Pairwise fun a b => b.toList.length ≤ a.toList.length
  := by
  decide

/-- The first operator of the list that fits follows the rule for the longest one. -/
theorem operator_cuts {text : List Char} {o : String} (h : operatorAt? text = some o) :
  Rule.operator.cuts text (Lexeme.ofSplit .operator (text.splitAt o.length))
  := by
  obtain ⟨hfits, longer, shorter, hlist, hlonger⟩ := List.find?_eq_some_iff_append.mp h
  have ho : o.toList <+: text := List.isPrefixOf_iff_prefix.mp hfits
  have htake : text.take o.length = o.toList := by
    rw [← String.length_toList]
    exact (List.prefix_iff_eq_take.mp ho).symm
  rw [List.splitAt_eq, htake]
  constructor
  · rw [← htake]
    exact (List.take_append_drop _ _).symm
  constructor
  · constructor
    · exact ho
    · use o
      constructor
      · rw [hlist]
        simp
      · rfl
    · rintro other hother ⟨o', ho', rfl⟩
      have hp := pairwise_operators
      rw [hlist] at ho' hp
      rcases List.mem_append.mp ho' with ho' | ho'
      · have hn := hlonger o' ho'
        rw [List.isPrefixOf_iff_prefix.mpr hother] at hn
        contradiction
      · rcases List.mem_cons.mp ho' with rfl | ho'
        · apply Nat.le_refl
        · have hc := (List.pairwise_append.mp hp).2.1
          apply List.rel_of_pairwise_cons hc ho'
  · use rfl
    rfl

theorem classOf_eq_wordKind (word : List Char) :
  Rule.classOf word = wordKind word
  := by
  simp only [Rule.classOf, wordKind, isKeyword, isFunction, isDatatype, Bool.or_eq_true,
    List.contains_iff_mem, List.any_eq_true]

theorem word_cuts (text : List Char) :
  Rule.word.cuts text
    (Lexeme.ofSplit (wordKind (splitRun isWordCharacter text).1) (splitRun isWordCharacter text))
  := by
  rw [← classOf_eq_wordKind]
  apply Rule.longest_cuts_splitRun
  funext s
  simp only [isWordCharacter_iff]

theorem isPunctuation_iff (c : Char) :
  isPunctuation c = true
    ↔ ∃ run ∈ Rule.punctuationRuns, run.1 ≤ c.toNat ∧ c.toNat ≤ run.2
  := by
  have hprinted : isPunctuation c = true
      ↔ (0x21 ≤ c.toNat ∧ c.toNat ≤ 0x7E) ∧ ¬ (c.isAlpha = true ∨ c.isDigit = true) := by
    rw [← isAlphanum_iff, isPunctuation, Bool.and_eq_true, Bool.and_eq_true, Bool.not_eq_true',
      Bool.not_eq_true, decide_eq_true_eq, decide_eq_true_eq, Char.le_def, Char.le_def,
      UInt32.le_iff_toNat_le, UInt32.le_iff_toNat_le]
    rfl
  rw [hprinted, isAlpha_iff, isDigit_iff]
  simp only [Rule.punctuationRuns, List.mem_cons, List.not_mem_nil, or_false, exists_eq_or_imp,
    exists_eq_left]
  omega

theorem kindOfOther_singleton (c : Char) :
  Rule.kindOfOther [c] = if isPunctuation c then .punctuation else .other
  := by
  simp only [Rule.kindOfOther, isPunctuation_iff, List.any_eq_true, decide_eq_true_eq,
    List.mem_singleton, exists_eq_left]

theorem anyCharacter_cuts (c : Char) (rest : List Char) :
  Rule.anyCharacter.cuts (c :: rest)
    (Lexeme.ofSplit (if isPunctuation c then .punctuation else .other) ([c], rest))
  := by
  rw [← kindOfOther_singleton]
  apply Rule.longest_cuts_first (P := fun s => s.length = 1) rest rfl
  intro s hs
  exact hs

/-! ### The first rule that applies -/

namespace FirstRule

variable {r r' : Rule} {rs : List Rule} {text : List Char} {x y : Lexeme} {b b' : Bool}

/-- A test for a rule, before what the later rules give. -/
theorem ite (hb : b = true ↔ r.applies text) (hx : r.applies text → r.cuts text x)
    (hy : FirstRule rs text y) :
  FirstRule (r :: rs) text (if b then x else y)
  := by
  split
  · next h => apply FirstRule.here (hb.mp h) (hx (hb.mp h))
  · next h =>
    apply FirstRule.later _ hy
    intro ha
    exact h (hb.mpr ha)

/-- A test for two rules, before what the later rules give. -/
theorem ite_or (hb : b = true ↔ r.applies text) (hx : r.applies text → r.cuts text x)
    (hb' : b' = true ↔ r'.applies text) (hx' : r'.applies text → r'.cuts text x)
    (hy : FirstRule rs text y) :
  FirstRule (r :: r' :: rs) text (if b || b' then x else y)
  := by
  have h : (if b || b' then x else y) = if b then x else if b' then x else y := by
    cases b <;> rfl
  rw [h]
  apply ite hb hx
  apply ite hb' hx' hy

end FirstRule

theorem beq_iff_singleton_prefix {c d : Char} {rest : List Char} :
  (c == d) = true ↔ [d] <+: c :: rest
  := by
  simp [List.cons_prefix_cons, @eq_comm _ c d]

theorem beq_iff_pair_prefix {c d e : Char} {rest : List Char} :
  (c == d && rest.head? == some e) = true ↔ [d, e] <+: c :: rest
  := by
  cases rest with
  | nil => simp [List.cons_prefix_cons]
  | cons b rest => simp [List.cons_prefix_cons, @eq_comm _ c d, @eq_comm _ b e]

theorem number_applies_iff {c : Char} {rest : List Char} :
  (c.isDigit || (c == '.' && rest.head?.any Char.isDigit)) = true
    ↔ Rule.number.applies (c :: rest)
  := by
  constructor
  · intro h
    have hc : c.isDigit = true ∨ c = '.' ∧ rest.head?.any Char.isDigit = true := by
      simpa using h
    rcases hc with hc | ⟨rfl, hd⟩
    · left
      use c, rfl
    · right
      cases rest with
      | nil => contradiction
      | cons d more => use d, more, rfl, hd
  · rintro (⟨d, hd, h⟩ | ⟨d, more, hm, h⟩)
    · cases hd
      simp [h]
    · cases hm
      simp [h]

theorem operator_applies_iff {text : List Char} :
  (operatorAt? text).isSome = true ↔ Rule.operator.applies text
  := by
  simp only [operatorAt?, List.find?_isSome, List.isPrefixOf_iff_prefix]
  rfl

/-- Operators, words and other characters are told apart as by the last three rules. -/
theorem firstRule_plainLexeme (c : Char) (rest : List Char) :
  FirstRule [.operator, .word, .anyCharacter] (c :: rest) (plainLexeme c rest)
  := by
  unfold plainLexeme
  split
  · next o ho =>
    apply FirstRule.here
    · apply operator_applies_iff.mp
      rw [ho]
      rfl
    · apply operator_cuts ho
  · next hnone =>
    apply FirstRule.later
    · intro h
      have hsome := operator_applies_iff.mpr h
      rw [hnone] at hsome
      contradiction
    · have hany := anyCharacter_cuts c rest
      rw [apply_ite (fun kind => Lexeme.ofSplit kind ([c], rest))] at hany
      apply FirstRule.ite
      · simp [Rule.word, Rule.longest]
      · intro _
        apply word_cuts
      · apply FirstRule.here (List.cons_ne_nil c rest) hany

/-- What is read at the start of a text follows the first rule that applies. -/
theorem firstRule_lexemeAt (c : Char) (rest : List Char) :
  FirstRule rules (c :: rest) (lexemeAt c rest)
  := by
  unfold lexemeAt
  apply FirstRule.ite
  · simp [Rule.blankRun, Rule.longest]
  · intro _
    apply Rule.longest_cuts_splitRun rfl
  apply FirstRule.ite beq_iff_pair_prefix
  · intro _
    apply Rule.longest_cuts_splitRun
    funext s
    simp only [bne_iff_ne, ne_eq, eq_iff_iff]
    exact List.forall_mem_ne'.symm
  apply FirstRule.ite beq_iff_pair_prefix
  · rintro ⟨content, ht⟩
    cases ht
    apply Rule.delimited_cuts_delimited (findsFirstEnd_throughCommentEnd? content)
  apply FirstRule.ite beq_iff_singleton_prefix
  · rintro ⟨content, ht⟩
    cases ht
    apply Rule.delimited_cuts_delimited (findsFirstEnd_throughMark?_start _ content)
  apply FirstRule.ite_or beq_iff_singleton_prefix _ beq_iff_singleton_prefix
  · rintro ⟨content, ht⟩
    cases ht
    apply Rule.delimited_cuts_delimited (findsFirstEnd_throughMark?_start _ content)
  · apply FirstRule.ite beq_iff_singleton_prefix
    · rintro ⟨content, ht⟩
      cases ht
      apply Rule.delimited_cuts_delimited (findsFirstEnd_throughBracket? content)
    apply FirstRule.ite number_applies_iff
    · intro _
      apply isNumber_numberLexeme
    apply FirstRule.ite_or beq_iff_singleton_prefix _ beq_iff_singleton_prefix
    · rintro ⟨content, ht⟩
      cases ht
      apply Rule.single_cuts
    · apply FirstRule.ite beq_iff_singleton_prefix
      · rintro ⟨content, ht⟩
        cases ht
        apply Rule.single_cuts
      apply FirstRule.ite beq_iff_singleton_prefix
      · rintro ⟨content, ht⟩
        cases ht
        apply Rule.single_cuts
      apply firstRule_plainLexeme
    · rintro ⟨content, ht⟩
      cases ht
      apply Rule.single_cuts
  · rintro ⟨content, ht⟩
    cases ht
    apply Rule.delimited_cuts_delimited (findsFirstEnd_throughMark?_start _ content)

theorem FirstRule.exists_cuts {rs : List Rule} {text : List Char} {x : Lexeme}
    (h : FirstRule rs text x) :
  ∃ r ∈ rs, r.applies text ∧ r.cuts text x
  := by
  induction h with
  | @here r rs _ _ ha hc => use r, List.mem_cons_self
  | later _ _ ih =>
    obtain ⟨r, hr, h⟩ := ih
    use r, List.mem_cons_of_mem _ hr

/-- No rule applies to the empty text. -/
theorem not_applies_nil {r : Rule} (hr : r ∈ rules) :
  ¬ r.applies []
  := by
  intro h
  have hopening : ∀ {c : Char} {opening : List Char}, ¬ c :: opening <+: [] := by
    intro c opening hp
    have he := List.prefix_nil.mp hp
    contradiction
  fin_cases hr
  · obtain ⟨c, hc, -⟩ := h
    contradiction
  all_goals try exact hopening h
  · rcases h with ⟨c, hc, -⟩ | ⟨c, rest, hc, -⟩ <;> contradiction
  · obtain ⟨o, ho, hp⟩ := h
    have he := length_ne_zero_of_mem_operators o ho
    rw [← String.length_toList, List.prefix_nil.mp hp] at he
    contradiction
  · obtain ⟨c, hc, -⟩ := h
    contradiction
  · contradiction

/-- The first lexeme of a text is the one that the first rule for the text gives. -/
theorem lexeme?_eq_some_iff {text : List Char} {x : Lexeme} :
  lexeme? text = some x ↔ FirstRule rules text x
  := by
  cases text with
  | nil =>
    constructor
    · intro h
      contradiction
    · intro h
      obtain ⟨r, hr, ha, -⟩ := h.exists_cuts
      exact absurd ha (not_applies_nil hr)
  | cons c rest =>
    have hread := firstRule_lexemeAt c rest
    constructor
    · intro h
      cases h
      exact hread
    · intro h
      rw [h.unique hread]
      rfl

/-- The token of a lexeme and the place after it, field by field. -/
theorem Lexer.eq_tokenAt_after_iff {offset : Nat} {x : Lexeme} {t : Token} {l' : Lexer} :
  t = tokenAt offset x ∧ l' = after offset x
    ↔ t.kind = x.kind ∧ t.text = String.ofList x.text
      ∧ t.span = ⟨offset, offset + t.text.utf8ByteSize⟩
      ∧ l'.rest = x.rest ∧ l'.offset = offset + t.text.utf8ByteSize ∧ l'.halted = x.halts
  := by
  obtain ⟨kind, text, span⟩ := t
  obtain ⟨rest, stop, halted⟩ := l'
  constructor
  · rintro ⟨ht, hl⟩
    cases ht
    cases hl
    rw [byteLength_ofList]
    exact ⟨rfl, rfl, rfl, rfl, rfl, rfl⟩
  · rintro ⟨rfl, rfl, hspan, rfl, hstop, rfl⟩
    rw [byteLength_ofList] at hspan hstop
    cases hspan
    cases hstop
    exact ⟨rfl, rfl⟩

/-- The token at a place is the lexeme that the first rule for what is left gives: it has the kind
and the text of the lexeme, and its span goes from the offset of the place over the bytes of the
text.  The next place is where the token ends, with the text that the lexeme leaves, and it is
halted if the lexeme lacks its end.  There is a token as long as something is left and no text
without an end has been found. -/
theorem next?_follows_rules (l : Lexer) :
  (∀ t l', l.next? = some (t, l')
      ↔ l.halted = false
        ∧ ∃ x, FirstRule rules l.rest x
          ∧ t.kind = x.kind ∧ t.text = String.ofList x.text
          ∧ t.span = ⟨l.offset, l.offset + t.text.utf8ByteSize⟩
          ∧ l'.rest = x.rest ∧ l'.offset = l.offset + t.text.utf8ByteSize
          ∧ l'.halted = x.halts)
    ∧ (l.next? = none ↔ l.halted = true ∨ l.rest = [])
  := by
  constructor
  · intro t l'
    simp only [Lexer.next?_eq_some_iff, lexeme?_eq_some_iff, Lexer.eq_tokenAt_after_iff]
  · apply Lexer.next?_eq_none_iff

end SqlScribe.Sql
