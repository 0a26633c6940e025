import SqlScribe.Proofs.Sql.Place

/-!
# Passages of a text

The tokens between two places: `Lexer.Yields l ts l'` says that the reading comes from the
place `l` to the place `l'` by the tokens `ts`.  The tokens from a place on are those up to
a later place and those from there on (`Lexer.Yields.tokens_eq`).

A text passes to a rest of it when it is read up to the rest without halting, by tokens that
all satisfy a condition.  This does not depend on the offset of the text, so passages of a
text can be put together (`Passes.trans`).
-/

namespace SqlScribe.Sql

namespace Lexer

/-- The reading comes from one place to another by some tokens. -/
inductive Yields : Lexer → List Token → Lexer → Prop
  | refl (l : Lexer) : Yields l [] l
  | step {l l' l'' : Lexer} {t : Token} {ts : List Token} :
    l.next? = some (t, l') → Yields l' ts l'' → Yields l (t :: ts) l''

theorem Yields.trans {l l' l'' : Lexer} {ts ts' : List Token} (h : l.Yields ts l')
    (h' : l'.Yields ts' l'') :
  l.Yields (ts ++ ts') l''
  := by
  induction h with
  | refl => exact h'
  | step hn _ ih => exact Yields.step hn (ih h')

theorem Yields.tokens_eq {l l' : Lexer} {ts : List Token} (h : l.Yields ts l') :
  l.tokens = ts ++ l'.tokens
  := by
  induction h with
  | refl => rfl
  | step hn _ ih =>
    rw [tokens_of_next?_eq_some hn, ih]
    rfl

/-- The texts of the tokens are what lies between the two places. -/
theorem Yields.append_rest {l l' : Lexer} {ts : List Token} (h : l.Yields ts l') :
  ts.flatMap (·.text.toList) ++ l'.rest = l.rest
  := by
  induction h with
  | refl => rfl
  | step hn _ ih =>
    obtain ⟨-, x, hx, rfl, rfl⟩ := next?_eq_some_iff.mp hn
    rw [List.flatMap_cons, List.append_assoc, ih, ← lexeme?_append hx]
    simp [tokenAt, after]

end Lexer

/-- A text is read up to a rest of it without halting, by tokens that satisfy a condition. -/
def Passes (good : Token → Prop) (text rest : List Char) : Prop :=
  ∀ offset, ∃ ts offset',
    Lexer.Yields ⟨text, offset, false⟩ ts ⟨rest, offset', false⟩ ∧ ∀ t ∈ ts, good t

theorem Passes.trans {good : Token → Prop} {text middle rest : List Char}
    (h : Passes good text middle) (h' : Passes good middle rest) :
  Passes good text rest
  := by
  intro offset
  obtain ⟨ts, offset', hy, hg⟩ := h offset
  obtain ⟨ts', offset'', hy', hg'⟩ := h' offset'
  use ts ++ ts', offset'', hy.trans hy'
  intro t ht
  rcases List.mem_append.mp ht with ht | ht
  · exact hg t ht
  · exact hg' t ht

/-- The first lexeme of a text is the token that is read first. -/
theorem Lexer.yields_of_lexeme? {text : List Char} {x : Lexeme} (hx : lexeme? text = some x)
    (hh : x.halts = false) (offset : Nat) :
  Yields ⟨text, offset, false⟩ [tokenAt offset x]
    ⟨x.rest, offset + Text.byteLength x.text, false⟩
  := by
  have hn : next? ⟨text, offset, false⟩ = some (tokenAt offset x, after offset x) := by
    apply next?_eq_some_iff.mpr
    use rfl, x
  have ha : after offset x = ⟨x.rest, offset + Text.byteLength x.text, false⟩ := by
    rw [after, hh]
  rw [ha] at hn
  exact Yields.step hn (Yields.refl _)

/-- A text passes its first lexeme, unless that halts the reading. -/
theorem passes_of_lexeme? {good : Token → Prop} {text : List Char} {x : Lexeme}
    (hx : lexeme? text = some x) (hh : x.halts = false)
    (hg : ∀ offset, good (Lexer.tokenAt offset x)) :
  Passes good text x.rest
  := by
  intro offset
  use [Lexer.tokenAt offset x], offset + Text.byteLength x.text
  use Lexer.yields_of_lexeme? hx hh offset
  intro t ht
  rw [List.mem_singleton.mp ht]
  exact hg offset

end SqlScribe.Sql
