import SqlScribe.Proofs.Sql.QuotedText
import SqlScribe.Proofs.Sql.Semicolons
import SqlScribe.Statement.Fragment

/-!
# The tokens of a statement

What it means for a statement to be read as it was written: none of its tokens is an error,
and each quoted text has tokens of its own, which are all string literals or all identifiers
(`IsCleanlyRead`).

Whether this is so is checked from fragment to fragment.  `check?` runs through the code of a
statement as `CodeState.run?` does and demands of a quoted text that it is harmless and that the
code before it does not break off within a number.  A statement that passes the check is read
cleanly (`isCleanlyRead_of_check?`): from any state that the check comes to, the rest of the
statement is read without errors, whatever of the lexeme before it is still pending.
-/

namespace SqlScribe.Statement

open Sql Text.Quoted

/-- The style of a quoted fragment, the kind of its tokens, and what it quotes. -/
def Fragment.quoted? (d : Dialect) : Fragment → Option (Style × TokenKind × List Char)
  | code _ => none
  | identifier name => some (d.identifierStyle, .identifier, name.toList)
  | literal text => some (d.literalStyle, .string, text.toList)

/-- The source consists of some fragments, has no token that is an error, and reads each quoted
text as tokens of its own, of the kind that the text has. -/
structure IsCleanlyRead (d : Dialect) (fragments : List Fragment) (source : String) : Prop where
  /-- The fragments make up the source. -/
  source_eq : source = write d fragments
  /-- No token is an error. -/
  no_error : ∀ t ∈ tokenize source, t.kind ≠ .error
  /-- The tokens of a quoted text begin and end with it and have its kind. -/
  tiled : ∀ before f after style kind text, fragments = before ++ f :: after →
    f.quoted? d = some (style, kind, text) →
    ∃ ts ts' ts'', tokenize source = ts ++ (ts' ++ ts'')
      ∧ String.join (ts.map (·.text)) = write d before
      ∧ String.join (ts'.map (·.text)) = write d [f]
      ∧ ∀ t ∈ ts', t.kind = kind

theorem write_of_quoted? {d : Dialect} {f : Fragment} {style : Style} {kind : TokenKind}
    {text : List Char} (h : f.quoted? d = some (style, kind, text)) :
  f.write d = style.encode text ∧ (style.mark, kind) ∈ quotes
  := by
  cases f with
  | code => contradiction
  | identifier name =>
    cases h
    use rfl
    cases d <;> decide
  | literal s =>
    cases h
    use rfl
    cases d <;> decide

/-! ### The check -/

instance (style : Style) (text : List Char) : Decidable (IsHarmless style text) :=
  inferInstanceAs (Decidable (_ ∨ _))

/-- The state after a fragment, unless it is refused. -/
def Fragment.check? (d : Dialect) (q : CodeState) (f : Fragment) : Option CodeState :=
  match f with
  | code text => q.run? text.toList
  | identifier name => checkQuoted? d.identifierStyle name.toList
  | literal text => checkQuoted? d.literalStyle text.toList
where
  /-- The state after a quoted text, unless it is refused. -/
  checkQuoted? (style : Style) (text : List Char) : Option CodeState :=
    if q.isComplete = true ∧ IsHarmless style text then some .fresh else none

/-- The state after some fragments, unless one of them is refused. -/
def check? (d : Dialect) (q : CodeState) (fragments : List Fragment) : Option CodeState :=
  fragments.foldlM (Fragment.check? d) q

theorem check?_append (d : Dialect) (q : CodeState) (a b : List Fragment) :
  check? d q (a ++ b) = (check? d q a).bind fun q' => check? d q' b
  := List.foldlM_append

theorem check?_cons (d : Dialect) (q : CodeState) (f : Fragment) (fragments : List Fragment) :
  check? d q (f :: fragments) = (f.check? d q).bind fun q' => check? d q' fragments
  := List.foldlM_cons

theorem check?_of_quoted? {d : Dialect} {q q' : CodeState} {f : Fragment} {style : Style}
    {kind : TokenKind} {text : List Char} (hf : f.quoted? d = some (style, kind, text))
    (h : f.check? d q = some q') :
  q.isComplete = true ∧ IsHarmless style text ∧ q' = .fresh
  := by
  have hchecked : Fragment.check?.checkQuoted? q style text = some q' := by
    cases f with
    | code => contradiction
    | identifier name =>
      cases hf
      exact h
    | literal s =>
      cases hf
      exact h
  simp only [Fragment.check?.checkQuoted?, Option.ite_none_right_eq_some, Option.some.injEq]
    at hchecked
  exact ⟨hchecked.1.1, hchecked.1.2, hchecked.2.symm⟩

/-! ### What passes the check is read cleanly -/

/-- The number of semicolons in the code of a fragment. -/
def Fragment.semicolons : Fragment → Nat
  | code text => text.toList.count ';'
  | identifier _ => 0
  | literal _ => 0

/-- The number of semicolons in the code of some fragments. -/
def semicolonsOf : List Fragment → Nat
  | [] => 0
  | f :: fragments => f.semicolons + semicolonsOf fragments

/-- Whatever is pending at a state, the text after it is read up to a rest without errors, with a
number of semicolons besides what is pending. -/
def ReadsFrom (q : CodeState) (text rest : List Char) (semicolons : Nat) : Prop :=
  ∀ u, q.Pending u → PassesCleanly (u.count ';' + semicolons) (u ++ text) rest

/-- A pending lexeme is read if it is complete and what follows does not extend it. -/
theorem readsFrom_refl {q : CodeState} {text : List Char} (hq : q.isComplete = true)
    (htext : ∀ c ∈ text.head?, q.endsBefore c = true) :
  ReadsFrom q text text 0
  := by
  intro u hu
  exact hu.passesCleanly hq htext

theorem isComplete_of_endsBefore {q : CodeState} {c : Char} (h : q.endsBefore c = true) :
  q.isComplete = true
  := by
  cases q <;> first | rfl | contradiction

theorem readsFrom_cons {q q' : CodeState} {c : Char} {text rest : List Char} {n : Nat}
    (h : q.step? c = some q') (htext : ReadsFrom q' text rest n) :
  ReadsFrom q (c :: text) rest ([c].count ';' + n)
  := by
  intro u hu
  unfold CodeState.step? at h
  split at h
  · next hends =>
    have hstart := htext [c] (CodeState.pending_start h)
    have hclosed : ReadsFrom q (c :: text) (c :: text) 0 := by
      apply readsFrom_refl (isComplete_of_endsBefore hends)
      intro c' hc'
      cases hc'
      exact hends
    exact (hclosed u hu).trans hstart
  · next hends =>
    have hextended := htext (u ++ [c]) (hu.extend (by simpa using hends) h)
    rwa [List.append_assoc, List.count_append, Nat.add_assoc] at hextended

theorem readsFrom_code {q q' : CodeState} {s text rest : List Char} {n : Nat}
    (h : q.run? s = some q') (htext : ReadsFrom q' text rest n) :
  ReadsFrom q (s ++ text) rest (s.count ';' + n)
  := by
  induction s generalizing q with
  | nil =>
    cases h
    rwa [List.count_nil, Nat.zero_add]
  | cons c s ih =>
    obtain ⟨q'', hc, hs⟩ := Option.bind_eq_some_iff.mp h
    have hcons := readsFrom_cons hc (ih hs)
    rwa [← Nat.add_assoc, ← List.count_append] at hcons

/-- A complete lexeme is read before a quoted text. -/
theorem readsFrom_quote {q : CodeState} {style : Style} {kind : TokenKind} (text rest : List Char)
    (hq : q.isComplete = true) (hkind : (style.mark, kind) ∈ quotes) :
  ReadsFrom q (style.encode text ++ rest) (style.encode text ++ rest) 0
  := by
  apply readsFrom_refl hq
  intro c hc
  cases hc
  have hall : ∀ p ∈ quotes, ∀ q ∈ CodeState.all, q.isComplete = true → q.endsBefore p.1 = true := by
    decide
  exact hall _ hkind q q.mem_all hq

/-- Tokens of quoted texts are neither errors nor semicolons. -/
theorem kind_of_mem_quotes {mark : Char} {kind : TokenKind} (h : (mark, kind) ∈ quotes) :
  kind ≠ .error ∧ kind ≠ .semicolon
  := by
  have hall : ∀ p ∈ quotes, p.2 ≠ .error ∧ p.2 ≠ .semicolon := by decide
  exact hall _ h

theorem readsFrom_fragment {d : Dialect} {q q' : CodeState} {f : Fragment} {text rest : List Char}
    {n : Nat} (h : f.check? d q = some q') (htext : ReadsFrom q' text rest n) :
  ReadsFrom q (f.write d ++ text) rest (f.semicolons + n)
  := by
  cases hf : f.quoted? d with
  | none =>
    cases f with
    | code s => exact readsFrom_code h htext
    | identifier => contradiction
    | literal => contradiction
  | some quoted =>
    obtain ⟨style, kind, s⟩ := quoted
    obtain ⟨hwrite, hkind⟩ := write_of_quoted? hf
    obtain ⟨hq, hs, rfl⟩ := check?_of_quoted? hf h
    obtain ⟨herror, hsemicolon⟩ := kind_of_mem_quotes hkind
    have hnone : f.semicolons = 0 := by
      cases f with
      | code => contradiction
      | identifier => rfl
      | literal => rfl
    have hquoted : PassesCleanly 0 (style.encode s ++ text) text :=
      (passes_encode text hkind hs).cleanly herror hsemicolon
    rw [hwrite, hnone]
    intro u hu
    have hstart := readsFrom_quote s text hq hkind u hu
    have hread := hstart.trans (hquoted.trans (htext [] .fresh))
    rwa [Nat.add_zero, List.count_nil, Nat.zero_add] at hread

/-- What passes the check from a state on is read without errors. -/
theorem readsFrom_fragments {d : Dialect} {q q' : CodeState} {fragments : List Fragment}
    {text rest : List Char} {n : Nat} (h : check? d q fragments = some q')
    (htext : ReadsFrom q' text rest n) :
  ReadsFrom q (fragments.flatMap (·.write d) ++ text) rest (semicolonsOf fragments + n)
  := by
  induction fragments generalizing q with
  | nil =>
    cases h
    rwa [semicolonsOf, Nat.zero_add]
  | cons f fragments ih =>
    rw [check?_cons] at h
    obtain ⟨q'', hf, hfs⟩ := Option.bind_eq_some_iff.mp h
    rw [List.flatMap_cons, List.append_assoc, semicolonsOf, Nat.add_assoc]
    exact readsFrom_fragment hf (ih hfs)

/-- Fragments that pass the check, from the start to a complete lexeme, are read to their end
without errors, and with the semicolons of their code. -/
theorem passesCleanly_of_check? {d : Dialect} {q : CodeState} {fragments : List Fragment}
    (h : check? d .fresh fragments = some q) (hq : q.isComplete = true) :
  PassesCleanly (semicolonsOf fragments) (fragments.flatMap (·.write d)) []
  := by
  have hend : ReadsFrom q [] [] 0 := by
    apply readsFrom_refl hq
    intro c hc
    contradiction
  have hread := readsFrom_fragments h hend [] .fresh
  rwa [List.append_nil, List.count_nil, Nat.zero_add] at hread

theorem join_map_text {l l' : Lexer} {ts : List Token} {text : List Char} (h : l.Yields ts l')
    (htext : l.rest = text ++ l'.rest) :
  String.join (ts.map (·.text)) = String.ofList text
  := by
  rw [← String.toList_inj, String.toList_join, List.flatMap_map, String.toList_ofList]
  apply List.append_cancel_right (h.append_rest.trans htext)

theorem tokens_eq_nil {offset : Nat} :
  Lexer.tokens ⟨[], offset, false⟩ = []
  := Lexer.tokens_of_next?_eq_none (Lexer.next?_eq_none_iff.mpr (Or.inr rfl))

theorem ofSource_ofList {text : List Char} :
  Lexer.ofSource (String.ofList text) = ⟨text, 0, false⟩
  := by
  rw [Lexer.ofSource, String.toList_ofList]

/-- A statement that passes the check has no errors, and the semicolons of its code. -/
theorem tokenize_of_check? {d : Dialect} {q : CodeState} {fragments : List Fragment}
    (h : check? d .fresh fragments = some q) (hq : q.isComplete = true) :
  (∀ t ∈ tokenize (write d fragments), t.kind ≠ .error)
    ∧ (tokenize (write d fragments)).countP (·.kind = .semicolon) = semicolonsOf fragments
  := by
  obtain ⟨ts, _, hy, herror, hcount⟩ := passesCleanly_of_check? h hq 0
  rw [tokenize, write, ofSource_ofList, hy.tokens_eq, tokens_eq_nil, List.append_nil]
  exact ⟨herror, hcount⟩

/-- A statement that passes the check is read cleanly. -/
theorem isCleanlyRead_of_check? {d : Dialect} {q : CodeState} {fragments : List Fragment}
    (h : check? d .fresh fragments = some q) (hq : q.isComplete = true) :
  IsCleanlyRead d fragments (write d fragments)
  := by
  constructor
  · rfl
  · exact (tokenize_of_check? h hq).1
  · rintro before f after style kind text rfl hf
    obtain ⟨hwrite, hkind⟩ := write_of_quoted? hf
    rw [check?_append] at h
    obtain ⟨q', hbefore, h⟩ := Option.bind_eq_some_iff.mp h
    rw [check?_cons] at h
    obtain ⟨q'', hchecked, hafter⟩ := Option.bind_eq_some_iff.mp h
    obtain ⟨hq', hs, rfl⟩ := check?_of_quoted? hf hchecked
    have hquote := readsFrom_quote text (after.flatMap (·.write d)) hq' hkind
    obtain ⟨ts, offset, hy, -⟩ := readsFrom_fragments hbefore hquote [] .fresh 0
    obtain ⟨ts', offset', hy', htiled⟩ := passes_encode (after.flatMap (·.write d)) hkind hs offset
    obtain ⟨ts'', offset'', hy'', -⟩ := passesCleanly_of_check? hafter hq offset'
    use ts, ts', ts''
    have hall : (before ++ f :: after).flatMap (·.write d)
        = before.flatMap (·.write d)
          ++ (style.encode text ++ after.flatMap (·.write d)) := by
      rw [List.flatMap_append, List.flatMap_cons, hwrite]
    constructor
    · rw [tokenize, write, ofSource_ofList, hall]
      have htokens := hy.tokens_eq
      rw [hy'.tokens_eq, hy''.tokens_eq, tokens_eq_nil, List.append_nil] at htokens
      exact htokens
    constructor
    · apply join_map_text hy rfl
    constructor
    · rw [write, List.flatMap_singleton, hwrite]
      apply join_map_text hy' rfl
    · exact htiled

end SqlScribe.Statement
