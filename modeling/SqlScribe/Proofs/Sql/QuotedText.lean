import SqlScribe.Dialect
import SqlScribe.Proofs.Sql.Passage
import SqlScribe.Proofs.Text.Quoted

/-!
# Quoted texts among tokens

The tokens of a quoted text.  The lexer ends a quoted text at the first mark that no backslash
escapes, so a text without marks is one token, and the marks in a text, which are written
twice, split it into several tokens that lie side by side.  All of them have the same kind, and
together they are the quoted text, provided that its backslashes are harmless: they are
doubled, or there are none (`passes_encode`).
-/

namespace SqlScribe.Sql

open Text.Quoted

/-- The marks of quoted texts, with the kinds of their tokens. -/
def quotes : List (Char × TokenKind) :=
  [('\'', .string), ('"', .identifier), ('\x60', .identifier)]

/-- No backslash of a text escapes a mark of its quoted form. -/
def IsHarmless (style : Style) (text : List Char) : Prop :=
  style.backslashEscapes = true ∨ '\\' ∉ text

theorem lexemeAt_quote {mark : Char} {kind : TokenKind} (h : (mark, kind) ∈ quotes)
    (rest : List Char) :
  lexemeAt mark rest = .delimited kind [mark] rest (throughMark? mark false rest)
  := by
  simp only [quotes, List.mem_cons, Prod.mk.injEq, List.not_mem_nil, or_false] at h
  rcases h with ⟨rfl, rfl⟩ | ⟨rfl, rfl⟩ | ⟨rfl, rfl⟩ <;> rfl

/-- The inside of a quoted text without marks ends at the mark after it. -/
theorem throughMark?_body {style : Style} {text : List Char} (rest : List Char)
    (hm : style.mark ∉ text) (hb : IsHarmless style text) :
  throughMark? style.mark false (style.body text ++ style.mark :: rest)
    = some (style.body text ++ [style.mark], rest)
  := by
  induction text with
  | nil => simp [Style.body, throughMark?]
  | cons c text ih =>
    have hc : c ≠ style.mark := fun h => hm (h ▸ List.mem_cons_self)
    have hm' : style.mark ∉ text := fun h => hm (List.mem_cons_of_mem c h)
    have hb' : IsHarmless style text := hb.imp_right fun h hmem => h (List.mem_cons_of_mem c hmem)
    have hmark : (c == style.mark) = false := beq_eq_false_iff_ne.mpr hc
    cases hd : style.doubles c with
    | true =>
      have hs : style.backslashEscapes = true ∧ c = '\\' := by
        simpa [Style.doubles, hc] using hd
      obtain ⟨-, rfl⟩ := hs
      rw [Style.body_cons_of_doubles hd, List.cons_append, List.cons_append, throughMark?, hmark]
      simp [throughMark?, hmark, ih hm' hb']
    | false =>
      have hs : (c == '\\') = false := by
        apply beq_eq_false_iff_ne.mpr
        rcases hb with hb | hb
        · rintro rfl
          simp [Style.doubles, hb] at hd
        · rintro rfl
          exact hb List.mem_cons_self
      rw [Style.body_cons_of_not_doubles hd, List.cons_append, throughMark?, hmark, hs]
      simp [ih hm' hb']

/-- The quoted form of a text without marks is a token. -/
theorem passes_encode_of_not_mem {style : Style} {kind : TokenKind} {text : List Char}
    (rest : List Char) (h : (style.mark, kind) ∈ quotes) (hm : style.mark ∉ text)
    (hb : IsHarmless style text) :
  Passes (·.kind = kind) (style.encode text ++ rest) rest
  := by
  have hx : lexeme? (style.encode text ++ rest)
      = some { kind, text := style.encode text, rest, halts := false } := by
    have hthrough := throughMark?_body rest hm hb
    rw [Style.encode, List.cons_append, List.append_assoc, List.singleton_append, lexeme?,
      lexemeAt_quote h, hthrough]
    rfl
  apply passes_of_lexeme? hx rfl
  intro offset
  rfl

/-- The quoted form of a text is made up of tokens of one kind.  The induction goes through the
text up to its next mark; `before` is what has been gone through. -/
theorem passes_encode_append {style : Style} {kind : TokenKind} (before text rest : List Char)
    (h : (style.mark, kind) ∈ quotes) (hm : style.mark ∉ before)
    (hb : IsHarmless style (before ++ text)) :
  Passes (·.kind = kind) (style.encode (before ++ text) ++ rest) rest
  := by
  induction text generalizing before with
  | nil =>
    rw [List.append_nil] at hb ⊢
    apply passes_encode_of_not_mem rest h hm hb
  | cons c text ih =>
    by_cases hc : c = style.mark
    · subst hc
      have hbefore : IsHarmless style before :=
        hb.imp_right fun h hmem => h (List.mem_append_left _ hmem)
      have hafter : IsHarmless style ([] ++ text) :=
        hb.imp_right fun h hmem => h (List.mem_append_right _ (List.mem_cons_of_mem _ hmem))
      rw [Style.encode_append_mark, List.append_assoc]
      apply (passes_encode_of_not_mem _ h hm hbefore).trans
      apply ih [] (by simp) hafter
    · have happend : before ++ c :: text = (before ++ [c]) ++ text := by simp
      rw [happend] at hb ⊢
      apply ih (before ++ [c]) _ hb
      simp [hm, @eq_comm _ _ c, hc]

/-- The quoted form of a text is made up of tokens of one kind. -/
theorem passes_encode {style : Style} {kind : TokenKind} {text : List Char} (rest : List Char)
    (h : (style.mark, kind) ∈ quotes) (hb : IsHarmless style text) :
  Passes (·.kind = kind) (style.encode text ++ rest) rest
  := passes_encode_append [] text rest h (by simp) hb

end SqlScribe.Sql
