import Mathlib.Data.List.Find
import Mathlib.Data.List.Forall2
import SqlScribe.Proofs.Sql.Alphabet
import SqlScribe.Proofs.Sql.Place

/-!
# The case of letters

Reading tokens does not depend on the case of ASCII letters.  Putting a text in upper case and then
reading its tokens is reading them and then putting their texts in upper case
(`Lexer.tokens_toUpper`): no test of a character tells the two cases of a letter apart, upper case
takes as many bytes as lower case, and words are looked up by their upper-case form.  This goes from
characters to splits of texts, lexemes, places and tokens, and no rule needs to know of another one.
Two sources that differ only in the case of letters have the same upper-case form, so their tokens
have the same kinds and the same spans (`tokenize_ignoresCase`).
-/

namespace SqlScribe.Sql

open Text

/-! ### Characters -/

/-- A character is its own upper-case form, or it is a lower-case letter of ASCII and the form comes
32 places before it. -/
theorem toUpper_eq_self_or (c : Char) :
  c.toUpper = c
    ∨ (0x61 ≤ c.toNat ∧ c.toNat ≤ 0x7A) ∧ c.toUpper.toNat + 0x20 = c.toNat
  := by
  unfold Char.toUpper
  split
  · next h =>
    right
    rw [UInt32.le_iff_toNat_le, UInt32.le_iff_toNat_le] at h
    constructor
    · exact h
    · change (c.val + ('A'.val - 'a'.val)).toNat + 0x20 = c.val.toNat
      have hlow : 0x61 ≤ c.val.toNat := h.1
      have hhigh : c.val.toNat ≤ 0x7A := h.2
      have hshift : ('A'.val - 'a'.val).toNat = 4294967264 := by decide
      rw [UInt32.toNat_add, hshift]
      omega
  · left
    rfl

/-- A test that does not tell the two cases of a letter apart. -/
def IgnoresCase (p : Char → Bool) : Prop :=
  ∀ c, p c.toUpper = p c

/-- A test ignores case if it gives the same answer for each lower-case letter and the capital
letter 32 places before it. -/
theorem ignoresCase_of_toNat {p : Char → Bool}
    (h : ∀ c d : Char, 0x61 ≤ c.toNat → c.toNat ≤ 0x7A → d.toNat + 0x20 = c.toNat →
      (p d = true ↔ p c = true)) :
  IgnoresCase p
  := by
  intro c
  rcases toUpper_eq_self_or c with hself | ⟨⟨hlow, hhigh⟩, hcode⟩
  · rw [hself]
  · exact Bool.eq_iff_iff.mpr (h c _ hlow hhigh hcode)

theorem ignoresCase_isBlank :
  IgnoresCase isBlank
  := by
  apply ignoresCase_of_toNat
  intro c d hlow hhigh hcode
  simp only [isBlank, blankRuns, List.any_cons, List.any_nil, Bool.or_eq_true, Bool.and_eq_true,
    decide_eq_true_eq, Bool.false_eq_true, or_false]
  omega

theorem ignoresCase_isDigit :
  IgnoresCase Char.isDigit
  := by
  apply ignoresCase_of_toNat
  intro c d hlow hhigh hcode
  rw [isDigit_iff, isDigit_iff]
  omega

theorem ignoresCase_isAlpha :
  IgnoresCase Char.isAlpha
  := by
  apply ignoresCase_of_toNat
  intro c d hlow hhigh hcode
  rw [isAlpha_iff, isAlpha_iff]
  omega

/-- The upper-case form of a character is one that is not a letter only if the character is. -/
theorem toUpper_beq (c k : Char) (hk : k.isAlpha = false) :
  (c.toUpper == k) = (c == k)
  := by
  have hcode : ¬ k.isAlpha = true := by simp [hk]
  rw [isAlpha_iff] at hcode
  have hsame : IgnoresCase (· == k) := by
    apply ignoresCase_of_toNat
    intro c d hlow hhigh hcd
    rw [beq_iff_eq, beq_iff_eq, ← Char.toNat_inj, ← Char.toNat_inj]
    omega
  exact hsame c

theorem utf8Size_toUpper (c : Char) :
  c.toUpper.utf8Size = c.utf8Size
  := by
  rcases toUpper_eq_self_or c with hself | ⟨⟨hlow, hhigh⟩, hcode⟩
  · rw [hself]
  · have hsize : ∀ c : Char, c.toNat ≤ 127 → c.utf8Size = 1 := by
      intro c hc
      exact Char.utf8Size_eq_one_iff.mpr (UInt32.le_iff_toNat_le.mpr hc)
    rw [hsize c (by omega), hsize _ (by omega)]

theorem toUpper_toUpper (c : Char) :
  c.toUpper.toUpper = c.toUpper
  := by
  rcases toUpper_eq_self_or c.toUpper with hself | ⟨⟨hlow, -⟩, -⟩
  · exact hself
  · rcases toUpper_eq_self_or c with hself | ⟨⟨-, hhigh⟩, hcode⟩
    · rw [hself, hself]
    · omega

/-! ### Splits of texts -/

variable {text rest : List Char} {p : Char → Bool}

/-- The two parts of a text in upper case. -/
def splitToUpper (split : List Char × List Char) : List Char × List Char :=
  (split.1.map Char.toUpper, split.2.map Char.toUpper)

theorem splitRun_toUpper (hp : IgnoresCase p) :
  splitRun p (text.map Char.toUpper) = splitToUpper (splitRun p text)
  := by
  have hcomp : p ∘ Char.toUpper = p := funext hp
  rw [splitRun, List.takeWhile_map, List.dropWhile_map, hcomp]
  rfl

theorem any_head?_toUpper (hp : IgnoresCase p) :
  (text.map Char.toUpper).head?.any p = text.head?.any p
  := by
  cases text with
  | nil => rfl
  | cons c rest => exact hp c

theorem head?_beq_toUpper {k : Char} (hk : k.isAlpha = false) :
  ((text.map Char.toUpper).head? == some k) = (text.head? == some k)
  := by
  cases text with
  | nil => rfl
  | cons c rest => exact toUpper_beq c k hk

theorem throughCommentEnd?_toUpper :
  throughCommentEnd? (text.map Char.toUpper) = (throughCommentEnd? text).map splitToUpper
  := by
  induction text with
  | nil => rfl
  | cons c rest ih =>
    rw [List.map_cons, throughCommentEnd?, throughCommentEnd?, toUpper_beq c '*' (by decide),
      head?_beq_toUpper (by decide), ih]
    split
    · next h =>
      rw [Bool.and_eq_true, beq_iff_eq] at h
      simp [splitToUpper, h.1, List.map_tail]
    · simp [splitToUpper, Function.comp_def]

theorem throughMark?_toUpper {mark : Char} (hmark : mark.isAlpha = false) {escaped : Bool} :
  throughMark? mark escaped (text.map Char.toUpper)
    = (throughMark? mark escaped text).map splitToUpper
  := by
  induction text generalizing escaped with
  | nil => rfl
  | cons c rest ih =>
    rw [List.map_cons, throughMark?, throughMark?, toUpper_beq c mark hmark,
      toUpper_beq c '\\' (by decide), ih]
    split
    · rfl
    · simp [splitToUpper, Function.comp_def]

theorem throughBracket?_toUpper :
  throughBracket? (text.map Char.toUpper) = (throughBracket? text).map splitToUpper
  := by
  induction text with
  | nil => rfl
  | cons c rest ih =>
    rw [List.map_cons, throughBracket?, throughBracket?, toUpper_beq c ']' (by decide), ih]
    split
    · rfl
    · simp [splitToUpper, Function.comp_def]

/-! ### Lexemes -/

/-- A lexeme in upper case, in the upper-case form of the text. -/
def Lexeme.toUpper (x : Lexeme) : Lexeme where
  kind := x.kind
  text := x.text.map Char.toUpper
  rest := x.rest.map Char.toUpper
  halts := x.halts

namespace Lexeme

theorem ofSplit_toUpper (kind : TokenKind) (split : List Char × List Char) :
  (ofSplit kind split).toUpper = ofSplit kind (splitToUpper split)
  := rfl

theorem delimited_toUpper (kind : TokenKind) (opening rest : List Char)
    (split : Option (List Char × List Char)) :
  (delimited kind opening rest split).toUpper
    = delimited kind (opening.map Char.toUpper) (rest.map Char.toUpper) (split.map splitToUpper)
  := by
  cases split with
  | none => simp [delimited, toUpper]
  | some s => simp [delimited, toUpper, splitToUpper]

end Lexeme

theorem splitNumber_toUpper :
  splitNumber (text.map Char.toUpper) = splitToUpper (splitNumber text)
  := by
  unfold splitNumber
  rw [splitRun_toUpper ignoresCase_isDigit]
  generalize splitRun Char.isDigit text = split
  obtain ⟨whole, rest⟩ := split
  cases rest with
  | nil => rfl
  | cons c more =>
    by_cases hpoint : c = '.'
    · subst hpoint
      simp [splitToUpper, splitRun_toUpper ignoresCase_isDigit]
    · have hupper : c.toUpper ≠ '.' := by
        have h := toUpper_beq c '.' (by decide)
        simpa [hpoint] using h
      simp [splitToUpper, hpoint, hupper]

theorem splitSign_toUpper :
  splitSign (text.map Char.toUpper) = splitToUpper (splitSign text)
  := by
  cases text with
  | nil => rfl
  | cons c rest =>
    rw [List.map_cons, splitSign, splitSign, toUpper_beq c '+' (by decide),
      toUpper_beq c '-' (by decide)]
    split <;> rfl

/-- The letter of an exponent can have either case. -/
theorem ignoresCase_exponentLetter :
  IgnoresCase fun c => c == 'e' || c == 'E'
  := by
  apply ignoresCase_of_toNat
  intro c d hlow hhigh hcode
  have hsmall : 'e'.toNat = 0x65 := rfl
  have hcapital : 'E'.toNat = 0x45 := rfl
  simp only [Bool.or_eq_true, beq_iff_eq, ← Char.toNat_inj]
  omega

theorem numberLexeme_toUpper :
  numberLexeme (text.map Char.toUpper) = (numberLexeme text).toUpper
  := by
  unfold numberLexeme
  rw [splitNumber_toUpper]
  generalize splitNumber text = split
  obtain ⟨mantissa, rest⟩ := split
  cases rest with
  | nil => rfl
  | cons c more =>
    have hletter := ignoresCase_exponentLetter c
    simp only at hletter
    simp only [splitToUpper, List.map_cons, hletter, splitSign_toUpper,
      splitRun_toUpper ignoresCase_isDigit]
    split
    · simp [Lexeme.toUpper]
    · rfl

theorem wordKind_toUpper :
  wordKind (text.map Char.toUpper) = wordKind text
  := by
  have hcomp : Char.toUpper ∘ Char.toUpper = Char.toUpper := funext toUpper_toUpper
  rw [wordKind, wordKind, List.map_map, hcomp]

/-- A text without letters begins a text if it begins the upper-case form of that text. -/
theorem isPrefixOf_toUpper {s : List Char} (hs : ∀ c ∈ s, c.isAlpha = false) :
  s.isPrefixOf (text.map Char.toUpper) = s.isPrefixOf text
  := by
  induction s generalizing text with
  | nil => rfl
  | cons k s ih =>
    cases text with
    | nil => rfl
    | cons c rest =>
      have hk := toUpper_beq c k (hs k List.mem_cons_self)
      have hrest : s.isPrefixOf (rest.map Char.toUpper) = s.isPrefixOf rest :=
        ih fun c hc => hs c (List.mem_cons_of_mem k hc)
      rw [List.map_cons, List.isPrefixOf_cons_cons, List.isPrefixOf_cons_cons, hrest,
        Bool.beq_comm, hk, Bool.beq_comm]

theorem operatorAt?_toUpper :
  operatorAt? (text.map Char.toUpper) = operatorAt? text
  := by
  have hletters : operators.all (fun o => o.toList.all (!·.isAlpha)) = true := by decide +kernel
  apply List.find?_congr
  intro o ho
  apply isPrefixOf_toUpper
  intro c hc
  have ho := List.all_eq_true.mp (List.all_eq_true.mp hletters o ho) c hc
  simpa using ho

theorem ignoresCase_isAlphanum :
  IgnoresCase Char.isAlphanum
  := by
  intro c
  rw [Char.isAlphanum, ignoresCase_isAlpha c, ignoresCase_isDigit c, ← Char.isAlphanum]

theorem ignoresCase_isWordCharacter :
  IgnoresCase isWordCharacter
  := by
  intro c
  rw [isWordCharacter, ignoresCase_isAlphanum c, toUpper_beq c '_' (by decide), ← isWordCharacter]

theorem ignoresCase_isPunctuation :
  IgnoresCase isPunctuation
  := by
  apply ignoresCase_of_toNat
  intro c d hlow hhigh hcode
  have hc : c.isAlphanum = true := isAlphanum_iff.mpr (Or.inl (isAlpha_iff.mpr (by omega)))
  have hd : d.isAlphanum = true := isAlphanum_iff.mpr (Or.inl (isAlpha_iff.mpr (by omega)))
  simp [isPunctuation, hc, hd]

theorem plainLexeme_toUpper (c : Char) (rest : List Char) :
  plainLexeme c.toUpper (rest.map Char.toUpper) = (plainLexeme c rest).toUpper
  := by
  have hoperator : operatorAt? ((c :: rest).map Char.toUpper) = operatorAt? (c :: rest) :=
    operatorAt?_toUpper
  have hword : splitRun isWordCharacter ((c :: rest).map Char.toUpper)
      = splitToUpper (splitRun isWordCharacter (c :: rest)) :=
    splitRun_toUpper ignoresCase_isWordCharacter
  rw [List.map_cons] at hoperator hword
  unfold plainLexeme
  rw [hoperator, hword, ignoresCase_isAlpha c, toUpper_beq c '_' (by decide),
    ignoresCase_isPunctuation c]
  split
  · simp [Lexeme.ofSplit_toUpper, splitToUpper, List.splitAt_eq]
  · split
    · simp only [Lexeme.ofSplit_toUpper, splitToUpper, wordKind_toUpper]
    · split <;> rfl

/-- A choice between lexemes goes to upper case with both of them, if it does not depend on case. -/
theorem Lexeme.ite_toUpper {b b' : Bool} {x x' y y' : Lexeme} (hb : b' = b)
    (hx : b = true → x' = x.toUpper) (hy : y' = y.toUpper) :
  (if b' then x' else y') = (if b then x else y).toUpper
  := by
  subst hb
  cases b' with
  | true => exact hx rfl
  | false => exact hy

/-- The first lexeme of a text in upper case is the first lexeme of the text, in upper case. -/
theorem lexemeAt_toUpper (c : Char) (rest : List Char) :
  lexemeAt c.toUpper (rest.map Char.toUpper) = (lexemeAt c rest).toUpper
  := by
  have same : ∀ k, k.isAlpha = false → (c.toUpper == k) = (c == k) := toUpper_beq c
  have next : ∀ k, k.isAlpha = false →
      ((rest.map Char.toUpper).head? == some k) = (rest.head? == some k) := fun _ hk =>
    head?_beq_toUpper hk
  have hbreak : IgnoresCase (· != '\n') := by
    intro c
    exact congrArg not (toUpper_beq c '\n' (by decide))
  -- One step for each rule: its test does not depend on case, and neither does what it cuts off.
  unfold lexemeAt
  apply Lexeme.ite_toUpper (ignoresCase_isBlank c)
  · intro _
    rw [← List.map_cons, splitRun_toUpper ignoresCase_isBlank, Lexeme.ofSplit_toUpper]
  apply Lexeme.ite_toUpper (by rw [same '-' (by decide), next '-' (by decide)])
  · intro _
    rw [← List.map_cons, splitRun_toUpper hbreak, Lexeme.ofSplit_toUpper]
  apply Lexeme.ite_toUpper (by rw [same '/' (by decide), next '*' (by decide)])
  · intro _
    rw [← List.map_tail, throughCommentEnd?_toUpper, Lexeme.delimited_toUpper]
    rfl
  apply Lexeme.ite_toUpper (same '\'' (by decide))
  · intro h
    rw [beq_iff_eq.mp h, Lexeme.delimited_toUpper, ← throughMark?_toUpper (by decide)]
    rfl
  apply Lexeme.ite_toUpper (by rw [same '"' (by decide), same '\x60' (by decide)])
  · intro h
    have hc : c.toUpper = c ∧ c.isAlpha = false := by
      rcases Bool.or_eq_true_iff.mp h with h | h
      · rw [beq_iff_eq.mp h]
        decide
      · rw [beq_iff_eq.mp h]
        decide
    rw [Lexeme.delimited_toUpper, hc.1, throughMark?_toUpper hc.2, List.map_singleton, hc.1]
  apply Lexeme.ite_toUpper (same '[' (by decide))
  · intro _
    rw [throughBracket?_toUpper, Lexeme.delimited_toUpper]
    rfl
  apply Lexeme.ite_toUpper (by
    rw [ignoresCase_isDigit c, same '.' (by decide), any_head?_toUpper ignoresCase_isDigit])
  · intro _
    rw [← List.map_cons, numberLexeme_toUpper]
  apply Lexeme.ite_toUpper (by rw [same '(' (by decide), same ')' (by decide)])
  · intro _
    rfl
  apply Lexeme.ite_toUpper (same ',' (by decide))
  · intro _
    rfl
  apply Lexeme.ite_toUpper (same ';' (by decide))
  · intro _
    rfl
  apply plainLexeme_toUpper

theorem lexeme?_toUpper :
  lexeme? (text.map Char.toUpper) = (lexeme? text).map Lexeme.toUpper
  := by
  cases text with
  | nil => rfl
  | cons c rest => exact congrArg some (lexemeAt_toUpper c rest)

/-! ### Tokens -/

/-- A text in upper case takes as many bytes. -/
theorem byteLength_toUpper :
  byteLength (text.map Char.toUpper) = byteLength text
  := by
  induction text with
  | nil => rfl
  | cons c rest ih => rw [List.map_cons, byteLength, byteLength, utf8Size_toUpper, ih]

/-- A token with its text in upper case. -/
def Token.toUpper (t : Token) : Token :=
  { t with text := String.ofList (t.text.toList.map Char.toUpper) }

namespace Lexer

/-- The same place in the upper-case form of the text. -/
def toUpper (l : Lexer) : Lexer :=
  { l with rest := l.rest.map Char.toUpper }

theorem next?_toUpper (l : Lexer) :
  l.toUpper.next? = l.next?.map fun (t, l') => (t.toUpper, l'.toUpper)
  := by
  unfold next?
  split
  · next h =>
    have hl : l.halted = true := h
    rw [if_pos hl]
    rfl
  · next h =>
    have hl : ¬ l.halted = true := h
    rw [if_neg hl, toUpper, lexeme?_toUpper, Option.map_map, Option.map_map]
    apply Option.map_congr
    intro x _
    simp [tokenAt, after, Lexeme.toUpper, Token.toUpper, toUpper, byteLength_toUpper]

/-- The tokens of a text in upper case are the tokens of the text, in upper case. -/
theorem tokens_toUpper (l : Lexer) :
  l.toUpper.tokens = l.tokens.map Token.toUpper
  := by
  induction l using tokens.induct with
  | case1 l h =>
    have hupper : l.toUpper.next? = none := by rw [next?_toUpper, h, Option.map_none]
    rw [tokens_of_next?_eq_none h, tokens_of_next?_eq_none hupper, List.map_nil]
  | case2 l t l' h ih =>
    have hupper : l.toUpper.next? = some (t.toUpper, l'.toUpper) := by
      rw [next?_toUpper, h, Option.map_some]
    rw [tokens_of_next?_eq_some h, tokens_of_next?_eq_some hupper, List.map_cons, ih]

theorem last_of_next?_eq_none {l : Lexer} (h : l.next? = none) :
  l.last = l
  := by
  rw [last]
  split
  · rfl
  · simp_all

theorem last_of_next?_eq_some {l l' : Lexer} {t : Token} (h : l.next? = some (t, l')) :
  l.last = l'.last
  := by
  rw [last]
  split
  · simp_all
  · simp_all

/-- The reading of a text in upper case ends at the same place. -/
theorem last_toUpper (l : Lexer) :
  l.toUpper.last = l.last.toUpper
  := by
  induction l using tokens.induct with
  | case1 l h =>
    have hupper : l.toUpper.next? = none := by rw [next?_toUpper, h, Option.map_none]
    rw [last_of_next?_eq_none h, last_of_next?_eq_none hupper]
  | case2 l t l' h ih =>
    have hupper : l.toUpper.next? = some (t.toUpper, l'.toUpper) := by
      rw [next?_toUpper, h, Option.map_some]
    rw [last_of_next?_eq_some h, last_of_next?_eq_some hupper, ih]

end Lexer

/-! ### Sources that differ in case -/

/-- The characters are the same, or they are the two cases of one letter of ASCII. -/
def SameLetter (a b : Char) : Prop :=
  a = b ∨ (a.isLower = true ∧ b = a.toUpper) ∨ (b.isLower = true ∧ a = b.toUpper)

/-- The texts are equally long and differ only in the case of letters of ASCII. -/
def SameUpToCase (s t : List Char) : Prop :=
  List.Forall₂ SameLetter s t

/-- The same letters are those with the same upper-case form. -/
theorem sameLetter_iff {a b : Char} :
  SameLetter a b ↔ a.toUpper = b.toUpper
  := by
  constructor
  · rintro (rfl | ⟨-, rfl⟩ | ⟨-, rfl⟩)
    · rfl
    · rw [toUpper_toUpper]
    · rw [toUpper_toUpper]
  · intro h
    rcases toUpper_eq_self_or a with ha | ⟨ha, hacode⟩ <;>
      rcases toUpper_eq_self_or b with hb | ⟨hb, hbcode⟩
    · left
      rw [← ha, h, hb]
    · right
      right
      exact ⟨isLower_iff.mpr hb, ha.symm.trans h⟩
    · right
      left
      exact ⟨isLower_iff.mpr ha, hb.symm.trans h.symm⟩
    · left
      rw [← Char.toNat_inj, ← hacode, ← hbcode, h]

theorem sameUpToCase_iff {s t : List Char} :
  SameUpToCase s t ↔ s.map Char.toUpper = t.map Char.toUpper
  := by
  have hletters : SameLetter = fun a b => a.toUpper = b.toUpper := by
    funext a b
    exact propext sameLetter_iff
  rw [SameUpToCase, hletters, ← List.forall₂_eq_eq_eq, List.forall₂_map_left_iff,
    List.forall₂_map_right_iff]

/-- The tokens have the same kind and the same span, and their texts differ only in case. -/
structure Token.SameUpToCase (x y : Token) : Prop where
  /-- The kind is the same. -/
  kind_eq : x.kind = y.kind
  /-- The span is the same. -/
  span_eq : x.span = y.span
  /-- The texts are the same but for the case of letters. -/
  text : Sql.SameUpToCase x.text.toList y.text.toList

theorem Token.sameUpToCase_of_toUpper_eq {x y : Token} (h : x.toUpper = y.toUpper) :
  x.SameUpToCase y
  := by
  obtain ⟨kind, text, span⟩ := x
  obtain ⟨kind', text', span'⟩ := y
  rw [Token.toUpper, Token.toUpper, Token.mk.injEq, String.ofList_inj] at h
  obtain ⟨hkind, htext, hspan⟩ := h
  exact ⟨hkind, hspan, sameUpToCase_iff.mpr htext⟩

/-- Sources that differ only in the case of ASCII letters have equally many tokens, of the same
kinds and with the same spans, and the reading of both halts or that of neither does. -/
theorem tokenize_ignoresCase (s t : String) (h : SameUpToCase s.toList t.toList) :
  List.Forall₂ Token.SameUpToCase (tokenize s) (tokenize t)
    ∧ (Lexer.ofSource s).last.halted = (Lexer.ofSource t).last.halted
  := by
  have hupper : (Lexer.ofSource s).toUpper = (Lexer.ofSource t).toUpper := by
    rw [Lexer.toUpper, Lexer.ofSource, Lexer.toUpper, Lexer.ofSource, sameUpToCase_iff.mp h]
  constructor
  · have htokens : (tokenize s).map Token.toUpper = (tokenize t).map Token.toUpper := by
      rw [tokenize, tokenize, ← Lexer.tokens_toUpper, ← Lexer.tokens_toUpper, hupper]
    rw [← List.forall₂_eq_eq_eq, List.forall₂_map_left_iff,
      List.forall₂_map_right_iff] at htokens
    exact htokens.imp fun _ _ => Token.sameUpToCase_of_toUpper_eq
  · have hlast := congrArg Lexer.halted (congrArg Lexer.last hupper)
    rw [Lexer.last_toUpper, Lexer.last_toUpper] at hlast
    exact hlast

/-- A keyword and an exponent in two cases, letters outside ASCII that have a case of their own, and
a comment without an end. -/
theorem tokenize_ignoresCase_mixed :
  SameUpToCase "select 1e-5, Straße /* é".toList "SeLeCT 1E-5, sTRAßE /* é".toList
    ∧ List.Forall₂ Token.SameUpToCase (tokenize "select 1e-5, Straße /* é")
      (tokenize "SeLeCT 1E-5, sTRAßE /* é")
    ∧ (Lexer.ofSource "select 1e-5, Straße /* é").last.halted
      = (Lexer.ofSource "SeLeCT 1E-5, sTRAßE /* é").last.halted
  := by
  have h : SameUpToCase "select 1e-5, Straße /* é".toList "SeLeCT 1E-5, sTRAßE /* é".toList :=
    sameUpToCase_iff.mpr (by decide)
  exact ⟨h, tokenize_ignoresCase _ _ h⟩

end SqlScribe.Sql
