import SqlScribe.Proofs.Sql.RuleReading

/-!
# One character past a lexeme

How far the rules of reading look.  A lexeme depends on the text after it by the first
character of that text at most: with other text there that begins in the same way, or with
none at all, the same lexeme is read (`lexeme?_of_beginsLike`).  A rule has this property when
its own lexeme is kept, and when no text that begins so makes the rule apply where it did not
(`Rule.LooksOneAhead`); then a list of such rules has it (`FirstRule.of_beginsLike`).

For longest starts the property comes from the growth of the form that a rule asks for: a
start that can be made longer can be made longer by one character (`GrowsByOne`).  The longer
operators have it because they are built up from shorter ones.  First ends do not depend on the
text after them at all.

With no text after it at all, a lexeme is still the same.  So the text of a token is read as that
token by itself (`tokenize_of_lexeme?`).
-/

namespace SqlScribe.Text

/-- A text is empty or begins with the first character of another one. -/
def BeginsLike (text other : List Char) : Prop :=
  ∀ c ∈ text.head?, c ∈ other.head?

variable {text other rest rest' : List Char}

theorem BeginsLike.append (h : BeginsLike rest' rest) (a : List Char) :
  BeginsLike (a ++ rest') (a ++ rest)
  := by
  cases a with
  | nil => apply h
  | cons c a =>
    intro d hd
    apply hd

theorem eq_nil_of_beginsLike_nil (h : BeginsLike text []) :
  text = []
  := by
  apply List.head?_eq_none_iff.mp
  apply Option.eq_none_iff_forall_not_mem.mpr
  intro c hc
  simpa using h c hc

/-- A text that begins with a character makes another one begin with it. -/
theorem BeginsLike.of_cons {c : Char} (h : BeginsLike (c :: text) other) :
  ∃ more, other = c :: more
  := by
  apply List.head?_eq_some_iff.mp
  apply h c rfl

/-- What begins at the first character after a start at the latest and goes one character past the
start at most is found there again. -/
theorem prefix_of_beginsLike {a o : List Char} (h : BeginsLike rest' rest)
    (hlength : o.length ≤ a.length + 1) (ho : o <+: a ++ rest') :
  o <+: a ++ rest
  := by
  rcases List.prefix_or_prefix_of_prefix ho (List.prefix_append a rest') with hshort | hlong
  · apply hshort.trans (List.prefix_append a rest)
  · obtain ⟨more, rfl⟩ := hlong
    apply (List.prefix_append_right_inj a).mpr
    have hmore := (List.prefix_append_right_inj a).mp ho
    cases more with
    | nil => apply List.nil_prefix
    | cons c more =>
      have hnil : more = [] := by
        apply List.eq_nil_of_length_eq_zero
        rw [List.length_append, List.length_cons] at hlength
        omega
      obtain ⟨tail, rfl⟩ := hmore
      obtain ⟨tail', rfl⟩ := h.of_cons
      rw [hnil]
      apply List.prefix_append [c] tail'

/-! ### Longest starts -/

/-- A text of a form that can be made longer can be made longer by one character. -/
def GrowsByOne (P : List Char → Prop) : Prop :=
  ∀ a c more, P a → P (a ++ c :: more) → P (a ++ [c])

/-- A form that the starts of a text inherit grows by one character. -/
theorem growsByOne_of_prefix {P : List Char → Prop} (h : ∀ a b, P (a ++ b) → P a) :
  GrowsByOne P
  := by
  intro a c more _ hlonger
  apply h (a ++ [c]) more
  rwa [List.append_assoc, List.singleton_append]

theorem growsByOne_forall_mem (p : Char → Prop) :
  GrowsByOne fun s => ∀ c ∈ s, p c
  := by
  apply growsByOne_of_prefix
  intro a b h c hc
  apply h c (List.mem_append_left b hc)

/-- A longest start is kept when the text after it begins in the same way. -/
theorem IsLongestStart.of_beginsLike {P : List Char → Prop} {a : List Char} (hP : GrowsByOne P)
    (h : IsLongestStart P (a ++ rest) a) (hrest : BeginsLike rest' rest) :
  IsLongestStart P (a ++ rest') a
  := by
  apply isLongestStart_of_head h.holds
  intro c more hc hlonger
  obtain ⟨tail, rfl⟩ := List.head?_eq_some_iff.mp (hrest c hc)
  have hlength := h.length_le (a ++ [c])
    ((List.prefix_append_right_inj a).mpr (List.prefix_append [c] tail))
    (hP a c more h.holds hlonger)
  rw [List.length_append, List.length_singleton] at hlength
  omega

/-- A start with the property stands at the beginning of the longest one. -/
theorem IsLongestStart.prefix_of_holds {P : List Char → Prop} {a s : List Char}
    (h : IsLongestStart P text a) (hs : s <+: text) (hP : P s) :
  s <+: a
  := List.prefix_of_prefix_length_le hs h.start_of (h.length_le s hs hP)

/-! ### First ends -/

/-- A first end is kept whatever text comes after it. -/
theorem IsFirstEnd.of_append {closes : List Char → Prop} {mark body after : List Char}
    (h : IsFirstEnd closes mark text body after) (after' : List Char) :
  IsFirstEnd closes mark (body ++ mark ++ after') body after'
  where
  text_eq := rfl
  holds := h.holds
  length_le := by
    intro body' more he hcloses
    by_contra hlt
    have hstart : body' ++ mark <+: body ++ mark := by
      have hshort : body' ++ mark <+: body ++ mark ++ after' := ⟨more, he.symm⟩
      have hlong : body ++ mark <+: body ++ mark ++ after' := List.prefix_append _ _
      apply List.prefix_of_prefix_length_le hshort hlong
      rw [List.length_append, List.length_append]
      omega
    obtain ⟨between, hbetween⟩ := hstart
    apply hlt
    apply h.length_le body' (between ++ after) _ hcloses
    rw [h.text_eq, ← hbetween, List.append_assoc]

end SqlScribe.Text

namespace SqlScribe.Sql

open Text

namespace Rule

/-- A rule looks one character past its lexeme at most: it gives the same lexeme before any text
that begins like the one there, and it does not apply before such a text if it does not apply
before the one there. -/
structure LooksOneAhead (r : Rule) : Prop where
  /-- The rule keeps its lexeme. -/
  keeps : ∀ {text rest' : List Char} {x : Lexeme}, r.applies text → r.cuts text x → x.text ≠ [] →
    BeginsLike rest' x.rest →
    r.applies (x.text ++ rest') ∧ r.cuts (x.text ++ rest') { x with rest := rest' }
  /-- The rule does not come to apply. -/
  reflects : ∀ {a rest rest' : List Char}, a ≠ [] → BeginsLike rest' rest →
    r.applies (a ++ rest') → r.applies (a ++ rest)

/-! ### Rules for longest starts -/

/-- A rule for longest starts looks one character ahead if its form grows by one character and
the longest start tells whether it applies. -/
theorem longest_looksOneAhead {applies P : List Char → Prop} {kind : List Char → TokenKind}
    (hP : GrowsByOne P)
    (hstart : ∀ {a rest : List Char} (rest'), a ≠ [] → IsLongestStart P (a ++ rest) a →
      applies (a ++ rest) → applies (a ++ rest'))
    (hreflects : ∀ {a rest rest' : List Char}, a ≠ [] → BeginsLike rest' rest →
      applies (a ++ rest') → applies (a ++ rest)) :
  (longest applies P kind).LooksOneAhead
  where
  keeps := by
    rintro text rest' x ha ⟨rfl, hlongest, hkind, hhalts⟩ hne hrest
    constructor
    · apply hstart rest' hne hlongest ha
    · constructor
      · rfl
      · use hlongest.of_beginsLike hP hrest, hkind
  reflects := hreflects

/-- Whether a text begins with a character of a sort is told by any start of it. -/
theorem head_of_append {p : Char → Prop} {a rest : List Char} (rest' : List Char) (ha : a ≠ [])
    (h : ∃ c ∈ (a ++ rest).head?, p c) :
  ∃ c ∈ (a ++ rest').head?, p c
  := by
  cases a with
  | nil => contradiction
  | cons d a => apply h

/-- Whether a text begins with an opening of one or two characters is not changed by text that
begins in the same way. -/
theorem opening_of_beginsLike {opening a rest rest' : List Char} (hlength : opening.length ≤ 2)
    (ha : a ≠ []) (hrest : BeginsLike rest' rest) (h : opening <+: a ++ rest') :
  opening <+: a ++ rest
  := by
  have hpos := List.length_pos_iff.mpr ha
  apply prefix_of_beginsLike hrest _ h
  omega

theorem blankRun_looksOneAhead :
  blankRun.LooksOneAhead
  := by
  apply longest_looksOneAhead (growsByOne_forall_mem _)
  · intro a rest rest' ha _
    apply head_of_append rest' ha
  · intro a rest rest' ha _
    apply head_of_append rest ha

theorem lineComment_looksOneAhead :
  lineComment.LooksOneAhead
  := by
  apply longest_looksOneAhead
  · apply growsByOne_of_prefix
    intro a b h hmem
    apply h (List.mem_append_left b hmem)
  · intro a rest rest' _ hlongest h
    have hopening := hlongest.prefix_of_holds h (by decide)
    apply hopening.trans (List.prefix_append a rest')
  · intro a rest rest'
    apply opening_of_beginsLike (by decide)

theorem single_looksOneAhead (c : Char) (kind : TokenKind) :
  (single c kind).LooksOneAhead
  := by
  apply longest_looksOneAhead
  · rintro a d more rfl h
    simp at h
  · intro a rest rest' _ hlongest _
    rw [hlongest.holds]
    apply List.prefix_append
  · intro a rest rest'
    apply opening_of_beginsLike (by simp)

/-- The operators that begin with another one are built up from it one character at a time. -/
theorem growsByOne_operator :
  GrowsByOne fun s => ∃ o ∈ operators, o.toList = s
  := by
  have hlonger : ∀ o ∈ operators, ∀ o' ∈ operators, o.toList <+: o'.toList →
      o.toList.length < o'.toList.length →
      ∃ o'' ∈ operators, o''.toList = o'.toList.take (o.toList.length + 1) := by
    decide +kernel
  rintro a c more ⟨o, ho, rfl⟩ ⟨o', ho', h⟩
  have hgrown := hlonger o ho o' ho'
  rw [h] at hgrown
  obtain ⟨o'', ho'', h''⟩ := hgrown (List.prefix_append _ _) (by simp)
  use o'', ho''
  rw [h'', List.take_append]
  simp

/-- An operator begins where one of at most two characters begins. -/
theorem exists_short_operator {o : String} (ho : o ∈ operators) :
  ∃ o' ∈ operators, o'.toList <+: o.toList ∧ o'.toList.length ≤ 2
  := by
  have h : ∀ o ∈ operators, ∃ o' ∈ operators, o'.toList <+: o.toList ∧ o'.toList.length ≤ 2 := by
    decide +kernel
  apply h o ho

theorem operator_looksOneAhead :
  operator.LooksOneAhead
  := by
  apply longest_looksOneAhead growsByOne_operator
  · intro a rest rest' _ hlongest _
    obtain ⟨o, ho, rfl⟩ := hlongest.holds
    use o, ho
    apply List.prefix_append
  · rintro a rest rest' ha hrest ⟨o, ho, h⟩
    obtain ⟨o', ho', hbegins, hlength⟩ := exists_short_operator ho
    use o', ho'
    apply opening_of_beginsLike hlength ha hrest (hbegins.trans h)

theorem word_looksOneAhead :
  word.LooksOneAhead
  := by
  apply longest_looksOneAhead (growsByOne_forall_mem _)
  · intro a rest rest' ha _
    apply head_of_append rest' ha
  · intro a rest rest' ha _
    apply head_of_append rest ha

theorem anyCharacter_looksOneAhead :
  anyCharacter.LooksOneAhead
  := by
  apply longest_looksOneAhead
  · intro a c more ha h
    simp only [List.length_append, List.length_cons] at h ⊢
    omega
  · intro a rest rest' ha _ _ h
    apply ha (List.append_eq_nil_iff.mp h).1
  · intro a rest rest' ha _ _ h
    apply ha (List.append_eq_nil_iff.mp h).1

/-! ### Rules for texts with an end -/

/-- A rule for texts with an end looks one character ahead at most: a lexeme that has its end needs
nothing after it, and one that lacks it leaves nothing. -/
theorem delimited_looksOneAhead {kind : TokenKind} {opening mark : List Char}
    {closes : List Char → Prop} (hlength : opening.length ≤ 2) :
  (delimited kind opening mark closes).LooksOneAhead
  where
  keeps := by
    rintro text rest' x - ⟨content, rfl, ⟨body, after, hend, rfl⟩ | ⟨hnone, rfl⟩⟩ - hrest
    · have happend : opening ++ body ++ mark ++ rest' = opening ++ (body ++ mark ++ rest') := by
        simp only [List.append_assoc]
      constructor
      · rw [happend]
        apply List.prefix_append
      · use body ++ mark ++ rest', happend
        left
        use body, rest', hend.of_append rest'
    · obtain rfl := eq_nil_of_beginsLike_nil hrest
      rw [List.append_nil]
      constructor
      · apply List.prefix_append
      · use content, rfl
        right
        use hnone
  reflects := by
    intro a rest rest' ha hrest
    apply opening_of_beginsLike hlength ha hrest

/-! ### Numbers -/

theorem growsByOne_isMantissa :
  GrowsByOne IsMantissa
  := by
  apply growsByOne_of_prefix
  rintro a b ⟨hcharacters, hcount⟩
  constructor
  · intro c hc
    apply hcharacters c (List.mem_append_left b hc)
  · rw [List.count_append] at hcount
    omega

theorem growsByOne_sign :
  GrowsByOne (· ∈ [[], ['+'], ['-']])
  := by
  intro a c more ha h
  simp only [List.mem_cons, List.not_mem_nil, or_false] at ha h ⊢
  rcases ha with rfl | rfl | rfl
  · simp at h ⊢
    apply h.imp And.left And.left
  · simp at h
  · simp at h

/-- A number is cut off in the same way before a text that begins like the one there. -/
theorem IsNumber.of_beginsLike {text rest' : List Char} {x : Lexeme} (h : IsNumber text x)
    (hrest : BeginsLike rest' x.rest) :
  IsNumber (x.text ++ rest') { x with rest := rest' }
  := by
  cases h with
  | plain ht hm hn =>
    rw [ht] at hm
    apply IsNumber.plain rfl (hm.of_beginsLike growsByOne_isMantissa hrest)
    intro c hc
    apply hn c (hrest c hc)
  | @scaled mantissa sign digits rest letter ht hm hl hs hd =>
    have happend : mantissa ++ letter :: (sign ++ digits) ++ rest'
        = mantissa ++ letter :: (sign ++ (digits ++ rest')) := by
      simp only [List.append_assoc, List.cons_append]
    rw [ht] at hm
    apply IsNumber.scaled happend _ hl
    · apply hs.of_beginsLike growsByOne_sign (hrest.append digits)
    · apply hd.of_beginsLike (growsByOne_forall_mem _) hrest
    · rw [happend]
      apply hm.of_beginsLike growsByOne_isMantissa
      intro c hc
      apply hc

theorem IsNumber.text_eq {text : List Char} {x : Lexeme} (h : IsNumber text x) :
  text = x.text ++ x.rest
  := by
  cases h with
  | plain ht => apply ht
  | scaled ht =>
    rw [ht]
    simp only [List.append_assoc, List.cons_append]

/-- Every start that is a mantissa belongs to the number that is cut off. -/
theorem IsNumber.prefix_text {text s : List Char} {x : Lexeme} (h : IsNumber text x)
    (hs : s <+: text) (hmantissa : IsMantissa s) :
  s <+: x.text
  := by
  cases h with
  | plain ht hm => apply hm.prefix_of_holds hs hmantissa
  | scaled ht hm =>
    apply (hm.prefix_of_holds hs hmantissa).trans
    apply List.prefix_append

theorem number_looksOneAhead :
  number.LooksOneAhead
  where
  keeps := by
    intro text rest' x happlies hcuts hne hrest
    constructor
    · rcases happlies with hdigit | ⟨c, more, ht, hc⟩
      · left
        rw [hcuts.text_eq] at hdigit
        apply head_of_append rest' hne hdigit
      · right
        have hpoint : ['.', c] <+: x.text := by
          apply hcuts.prefix_text ⟨more, ht.symm⟩
          constructor
          · simp [hc]
          · have hne : c ≠ '.' := by
              rintro rfl
              contradiction
            simp [hne]
        obtain ⟨tail, htail⟩ := hpoint
        use c, tail ++ rest'
        rw [← htail]
        use rfl, hc
    · apply hcuts.of_beginsLike hrest
  reflects := by
    rintro a rest rest' ha hrest (hdigit | ⟨c, more, h, hc⟩)
    · left
      apply head_of_append rest ha hdigit
    · right
      have hpoint : ['.', c] <+: a ++ rest' := ⟨more, h.symm⟩
      obtain ⟨tail, htail⟩ := opening_of_beginsLike (by simp) ha hrest hpoint
      use c, tail, htail.symm

end Rule

/-! ### The first lexeme -/

/-- No rule looks further than one character past its lexeme. -/
theorem looksOneAhead_of_mem_rules {r : Rule} (hr : r ∈ rules) :
  r.LooksOneAhead
  := by
  fin_cases hr
  · apply Rule.blankRun_looksOneAhead
  · apply Rule.lineComment_looksOneAhead
  · apply Rule.delimited_looksOneAhead (by decide)
  · apply Rule.delimited_looksOneAhead (by decide)
  · apply Rule.delimited_looksOneAhead (by decide)
  · apply Rule.delimited_looksOneAhead (by decide)
  · apply Rule.delimited_looksOneAhead (by decide)
  · apply Rule.number_looksOneAhead
  · apply Rule.single_looksOneAhead
  · apply Rule.single_looksOneAhead
  · apply Rule.single_looksOneAhead
  · apply Rule.single_looksOneAhead
  · apply Rule.operator_looksOneAhead
  · apply Rule.word_looksOneAhead
  · apply Rule.anyCharacter_looksOneAhead

/-- The first rule that applies stays the first before a text that begins like the one there: it
keeps its lexeme, and none of the rules before it comes to apply. -/
theorem FirstRule.of_beginsLike {rs : List Rule} {text rest' : List Char} {x : Lexeme}
    (hrs : ∀ r ∈ rs, r.LooksOneAhead) (h : FirstRule rs text x) (ht : x.text ++ x.rest = text)
    (hne : x.text ≠ []) (hrest : BeginsLike rest' x.rest) :
  FirstRule rs (x.text ++ rest') { x with rest := rest' }
  := by
  induction h with
  | @here r rs text x ha hc =>
    obtain ⟨ha', hc'⟩ := (hrs r List.mem_cons_self).keeps ha hc hne hrest
    apply FirstRule.here ha' hc'
  | @later r rs text x hn _ ih =>
    apply FirstRule.later
    · intro ha
      apply hn
      rw [← ht]
      apply (hrs r List.mem_cons_self).reflects hne hrest ha
    · apply ih _ ht hne hrest
      intro r' hr'
      apply hrs r' (List.mem_cons_of_mem r hr')

/-- The first lexeme of a text depends on what comes after it by one character at most. -/
theorem lexeme?_of_beginsLike {text rest' : List Char} {x : Lexeme} (hx : lexeme? text = some x)
    (hrest : BeginsLike rest' x.rest) :
  lexeme? (x.text ++ rest') = some { x with rest := rest' }
  := by
  rw [lexeme?_eq_some_iff]
  apply FirstRule.of_beginsLike _ (lexeme?_eq_some_iff.mp hx) (lexeme?_append hx)
    (lexeme?_text_ne_nil hx) hrest
  intro r hr
  apply looksOneAhead_of_mem_rules hr

/-! ### Tokens by themselves -/

/-- Each token from a place on is the first lexeme of some text. -/
theorem Lexer.exists_lexeme?_of_mem_tokens {l : Lexer} {t : Token} (h : t ∈ l.tokens) :
  ∃ text offset x, lexeme? text = some x ∧ t = tokenAt offset x
  := by
  induction l using tokens.induct with
  | case1 l hn =>
    rw [tokens_of_next?_eq_none hn] at h
    contradiction
  | case2 l u l' hn ih =>
    rw [tokens_of_next?_eq_some hn, List.mem_cons] at h
    rcases h with rfl | h
    · obtain ⟨-, x, hx, rfl, -⟩ := next?_eq_some_iff.mp hn
      use l.rest, l.offset, x
    · apply ih h

/-- The text of a lexeme has no other token than that lexeme. -/
theorem tokenize_of_lexeme? {text : List Char} {x : Lexeme} (hx : lexeme? text = some x) :
  tokenize (String.ofList x.text) = [Lexer.tokenAt 0 x]
  := by
  have halone : lexeme? (String.ofList x.text).toList = some { x with rest := [] } := by
    have hnil : BeginsLike [] x.rest := by
      intro c hc
      contradiction
    have hcut := lexeme?_of_beginsLike hx hnil
    rw [List.append_nil] at hcut
    rwa [String.toList_ofList]
  have hfirst : (Lexer.ofSource (String.ofList x.text)).next?
      = some (Lexer.tokenAt 0 x, Lexer.after 0 { x with rest := [] }) := by
    apply Lexer.next?_eq_some_iff.mpr
    use rfl, { x with rest := [] }, halone, rfl
    rfl
  have hlast : (Lexer.after 0 { x with rest := [] }).next? = none := by
    apply Lexer.next?_eq_none_iff.mpr
    right
    rfl
  rw [tokenize, Lexer.tokens_of_next?_eq_some hfirst, Lexer.tokens_of_next?_eq_none hlast]

/-- A token stands alone: the text of any token of a source, malformed or not, is read as that token
and nothing else, from its first byte to its last. -/
theorem tokenize_text (source : String) (t : Token) (h : t ∈ tokenize source) :
  tokenize t.text = [{ kind := t.kind, text := t.text, span := ⟨0, t.text.utf8ByteSize⟩ }]
  := by
  obtain ⟨text, offset, x, hx, rfl⟩ := Lexer.exists_lexeme?_of_mem_tokens h
  rw [Lexer.tokenAt, tokenize_of_lexeme? hx, Lexer.tokenAt, byteLength_ofList, Nat.zero_add]

/-- A number that breaks off in its exponent, and a string without an end after it. -/
theorem tokenize_text_malformed :
  (⟨.error, "2.5e-", ⟨0, 5⟩⟩ ∈ tokenize "2.5e-x 'é"
      ∧ ⟨.error, "'é", ⟨7, 10⟩⟩ ∈ tokenize "2.5e-x 'é")
    ∧ tokenize "2.5e-" = [⟨.error, "2.5e-", ⟨0, 5⟩⟩] ∧ tokenize "'é" = [⟨.error, "'é", ⟨0, 3⟩⟩]
  := by
  have h : tokenize "2.5e-x 'é"
      = [⟨.error, "2.5e-", ⟨0, 5⟩⟩, ⟨.identifier, "x", ⟨5, 6⟩⟩, ⟨.whitespace, " ", ⟨6, 7⟩⟩,
        ⟨.error, "'é", ⟨7, 10⟩⟩] := by
    decide +kernel
  have hnumber : ⟨.error, "2.5e-", ⟨0, 5⟩⟩ ∈ tokenize "2.5e-x 'é" := by simp [h]
  have hstring : ⟨.error, "'é", ⟨7, 10⟩⟩ ∈ tokenize "2.5e-x 'é" := by simp [h]
  use ⟨hnumber, hstring⟩, tokenize_text _ _ hnumber
  apply tokenize_text _ _ hstring

end SqlScribe.Sql
