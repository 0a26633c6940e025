import SqlScribe.Proofs.Sql.Lookahead
import SqlScribe.Proofs.Sql.Passage

/-!
# Going on with a longer source

What the tokens of a source have to do with those of a longer source that begins with it.
As long as something is left at a place, the token before it has ended for good, and text
that is added at the end of the source does not change it (`Lexer.next?_extend`).  So
only the last token can change, and the longer source is read as if the reading began anew
at any token of the shorter one: the tokens before that place are the same, and the others are
those of the text from there on, moved by its offset.

This holds as well if the last token of the shorter source has halted the reading, since it
has left nothing: the longer source is read again from the start of that token.
-/

namespace SqlScribe.Sql

open Text

/-- The token further on by a number of bytes. -/
def Token.shift (count : Nat) (t : Token) : Token :=
  { t with span := ⟨count + t.span.start, count + t.span.stop⟩ }

namespace Lexer

/-! ### Places further on -/

/-- The place further on by a number of bytes. -/
def shift (count : Nat) (l : Lexer) : Lexer :=
  { l with offset := count + l.offset }

theorem next?_shift (count : Nat) (l : Lexer) :
  (l.shift count).next? = l.next?.map fun p => (p.1.shift count, p.2.shift count)
  := by
  unfold next?
  cases h : l.halted with
  | true => simp [shift, h]
  | false =>
    simp only [shift, h, Bool.false_eq_true, ↓reduceIte, Option.map_map]
    congr 1
    funext x
    simp [tokenAt, after, Token.shift, Nat.add_assoc]

/-- The tokens from a place further on are those from the place, further on. -/
theorem tokens_shift (count : Nat) (l : Lexer) :
  (l.shift count).tokens = l.tokens.map (Token.shift count)
  := by
  induction l using tokens.induct with
  | case1 l h =>
    rw [tokens_of_next?_eq_none h, tokens_of_next?_eq_none]
    · rfl
    · rw [next?_shift, h]
      rfl
  | case2 l t l' h ih =>
    have hn : (l.shift count).next? = some (t.shift count, l'.shift count) := by
      rw [next?_shift, h]
      rfl
    rw [tokens_of_next?_eq_some h, tokens_of_next?_eq_some hn, ih]
    rfl

/-! ### Places with more text after them -/

/-- The place with more text at the end. -/
def extend (more : List Char) (l : Lexer) : Lexer :=
  { l with rest := l.rest ++ more }

/-- A token after which something is left is not changed by more text at the end. -/
theorem next?_extend {l l' : Lexer} {t : Token} (more : List Char) (h : l.next? = some (t, l'))
    (hrest : l'.rest ≠ []) :
  (l.extend more).next? = some (t, l'.extend more)
  := by
  obtain ⟨hhalted, x, hx, rfl, rfl⟩ := next?_eq_some_iff.mp h
  have hlike : BeginsLike (x.rest ++ more) x.rest := by
    obtain ⟨c, tail, htail⟩ := List.exists_cons_of_ne_nil (show x.rest ≠ [] from hrest)
    rw [htail]
    intro d hd
    apply hd
  apply next?_eq_some_iff.mpr
  use hhalted, { x with rest := x.rest ++ more }
  constructor
  · have hlexeme := lexeme?_of_beginsLike hx hlike
    rw [← List.append_assoc, lexeme?_append hx] at hlexeme
    apply hlexeme
  · constructor
    · rfl
    · rfl

/-- What is left at a place is part of what is left at the places before it. -/
theorem Yields.rest_ne_nil {l l' : Lexer} {ts : List Token} (h : l.Yields ts l')
    (hrest : l'.rest ≠ []) :
  l.rest ≠ []
  := by
  intro hnil
  rw [← h.append_rest] at hnil
  apply hrest (List.append_eq_nil_iff.mp hnil).2

/-- The tokens up to a place at which something is left are not changed by more text at the
end. -/
theorem Yields.extend {l l' : Lexer} {ts : List Token} (more : List Char) (h : l.Yields ts l')
    (hrest : l'.rest ≠ []) :
  (l.extend more).Yields ts (l'.extend more)
  := by
  induction h with
  | refl l => apply Yields.refl
  | step hn hy ih =>
    apply Yields.step _ (ih hrest)
    apply next?_extend more hn (hy.rest_ne_nil hrest)

/-! ### Places between tokens -/

/-- There is a place before each token, and the tokens from there on begin with it. -/
theorem exists_yields_of_tokens_eq {l : Lexer} {ts us : List Token} (h : l.tokens = ts ++ us) :
  ∃ l', l.Yields ts l' ∧ l'.tokens = us
  := by
  induction ts generalizing l with
  | nil => use l, Yields.refl l, h
  | cons t ts ih =>
    cases hn : l.next? with
    | none =>
      rw [tokens_of_next?_eq_none hn] at h
      contradiction
    | some p =>
      obtain ⟨t', l₁⟩ := p
      rw [tokens_of_next?_eq_some hn] at h
      obtain ⟨rfl, hts⟩ := List.cons.inj h
      obtain ⟨l', hy, hus⟩ := ih hts
      use l', Yields.step hn hy

/-- At a place before a token the reading has not halted, something is left, and the token
starts at the offset of the place. -/
theorem start_of_tokens_eq_cons {l : Lexer} {u : Token} {us : List Token}
    (h : l.tokens = u :: us) :
  l.halted = false ∧ l.rest ≠ [] ∧ u.span.start = l.offset
  := by
  cases hn : l.next? with
  | none =>
    rw [tokens_of_next?_eq_none hn] at h
    contradiction
  | some p =>
    obtain ⟨t, l'⟩ := p
    rw [tokens_of_next?_eq_some hn] at h
    obtain ⟨rfl, -⟩ := List.cons.inj h
    obtain ⟨hhalted, x, hx, rfl, -⟩ := next?_eq_some_iff.mp hn
    constructor
    · apply hhalted
    · constructor
      · intro hnil
        rw [hnil] at hx
        contradiction
      · rfl

theorem Yields.isIn {l l' : Lexer} {source : String} {before : List Char} {ts : List Token}
    (h : l.Yields ts l') (hl : l.IsIn source before) :
  ∃ before', l'.IsIn source before'
  := by
  induction h generalizing before with
  | refl l => use before
  | step hn _ ih => apply ih (hl.next hn)

end Lexer

/-- A source that is not empty has a last token. -/
theorem exists_last_token {source : String} (h : source ≠ "") :
  ∃ ts last, tokenize source = ts ++ [last]
  := by
  have hne : tokenize source ≠ [] := by
    intro hnil
    cases hn : (Lexer.ofSource source).next? with
    | none =>
      rcases Lexer.next?_eq_none_iff.mp hn with hhalted | hrest
      · contradiction
      · apply h
        apply String.toList_eq_nil_iff.mp hrest
    | some p =>
      obtain ⟨t, l⟩ := p
      rw [tokenize, Lexer.tokens_of_next?_eq_some hn] at hnil
      contradiction
  use (tokenize source).dropLast, (tokenize source).getLast hne
  rw [List.dropLast_concat_getLast]

/-- The tokens of a text at a place that has not halted are those of the text, further on. -/
theorem Lexer.tokens_eq_map_shift (l : Lexer) (hl : l.halted = false) :
  l.tokens = (tokenize (String.ofList l.rest)).map (Token.shift l.offset)
  := by
  rw [tokenize, ← tokens_shift]
  congr 1
  rw [shift, ofSource, String.toList_ofList, Nat.add_zero, ← hl]

/-- A source is read further from any of its tokens on, and in particular from its last one,
whatever text is added to it: the tokens before that one are kept as they are, and the others
are those of the text from there on, moved by the offset of that text. -/
theorem tokenize_append (source more : String) (h : source ≠ "") :
  (∃ ts last, tokenize source = ts ++ [last])
    ∧ ∀ ts u us, tokenize source = ts ++ u :: us →
      ∃ before rest, source = before ++ rest ∧ before.utf8ByteSize = u.span.start
        ∧ tokenize (source ++ more)
          = ts ++ (tokenize (rest ++ more)).map (Token.shift u.span.start)
  := by
  constructor
  · apply exists_last_token h
  · intro ts u us htokens
    obtain ⟨l, hy, hl⟩ := Lexer.exists_yields_of_tokens_eq htokens
    obtain ⟨hhalted, hrest, hstart⟩ := Lexer.start_of_tokens_eq_cons hl
    obtain ⟨before, hin⟩ := hy.isIn (Lexer.isIn_ofSource source)
    have hsource : Lexer.ofSource (source ++ more)
        = (Lexer.ofSource source).extend more.toList := by
      rw [Lexer.ofSource, String.toList_append]
      rfl
    have hmore : String.ofList (l.extend more.toList).rest = String.ofList l.rest ++ more := by
      rw [Lexer.extend, String.ofList_append, String.ofList_toList]
    use String.ofList before, String.ofList l.rest
    constructor
    · rw [← String.ofList_append, ← hin.source_eq, String.ofList_toList]
    constructor
    · rw [byteLength_ofList, hstart, hin.offset_eq]
    · rw [tokenize, hsource, (hy.extend more.toList hrest).tokens_eq, hstart, ← hmore]
      congr 1
      apply (l.extend more.toList).tokens_eq_map_shift hhalted

/-- A number that breaks off in its exponent at the end of a source is read again. -/
theorem tokenize_append_exponent :
  "SELECT 1e" ≠ ""
    ∧ (∃ ts last, tokenize "SELECT 1e" = ts ++ [last])
    ∧ ∀ ts u us, tokenize "SELECT 1e" = ts ++ u :: us →
      ∃ before rest, "SELECT 1e" = before ++ rest ∧ before.utf8ByteSize = u.span.start
        ∧ tokenize ("SELECT 1e" ++ "+5;")
          = ts ++ (tokenize (rest ++ "+5;")).map (Token.shift u.span.start)
  := by
  have h : "SELECT 1e" ≠ "" := by decide
  use h
  apply tokenize_append "SELECT 1e" "+5;" h

end SqlScribe.Sql
