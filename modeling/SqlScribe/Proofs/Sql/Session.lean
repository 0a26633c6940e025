import SqlScribe.Proofs.Sql.Malformed
import SqlScribe.Proofs.Sql.Partition

/-!
# Sessions

A lexer is used by calls: each takes the next token, if there is one, and moves the lexer past it.
A lexer can be cloned at any time, and it can be restored to a clone.  A `Session` holds the
lexers over one source that have come about in this way, each with the answers to its own calls;
a clone has those of the lexer that it is a clone of, and so has a lexer that is restored to it.

Whatever is done in a session, each of its lexers is where its own answers have led a single
lexer from the start of the source (`Session.comesFrom_run`).  So it is enough to go through the
calls of a single lexer to see that all lexers of a session keep to a protocol for malformed
tokens (`Branch.KeepsProtocol`): a token without an end, which has taken all that was left, halts
its lexer for good, and nothing else does; a number that breaks off ends where its exponent lacks
a digit, and its lexer goes on from there.
-/

namespace SqlScribe.Sql

open Text

/-! ### Calls -/

/-- How a lexer is called. -/
inductive Call where
  /-- For the next token. -/
  | nextToken
  /-- As an iterator, for its next item, which is the next token. -/
  | nextItem
  deriving Repr, DecidableEq

namespace Lexer

/-- The next token, if there is one, and the lexer after it. -/
def nextToken (l : Lexer) : Option Token × Lexer :=
  match l.next? with
  | none => (none, l)
  | some (t, l') => (some t, l')

/-- The answer to a call, and the lexer after it. -/
def call (l : Lexer) : Call → Option Token × Lexer
  | .nextToken => l.nextToken
  | .nextItem => l.nextToken

/-- The answers to some calls, and the lexer after them. -/
def calls (l : Lexer) : List Call → List (Option Token) × Lexer
  | [] => ([], l)
  | c :: cs => ((l.call c).1 :: ((l.call c).2.calls cs).1, ((l.call c).2.calls cs).2)

/-- No call of the lexer is answered by a token, and none changes it. -/
def IsExhausted (l : Lexer) : Prop :=
  ∀ cs, l.calls cs = (List.replicate cs.length none, l)

variable {l l' last : Lexer} {t : Token} {cs : List Call} {source : String}

theorem call_eq_nextToken (l : Lexer) (c : Call) :
  l.call c = l.nextToken
  := by
  cases c <;> rfl

theorem call_of_next?_eq_none (h : l.next? = none) (c : Call) :
  l.call c = (none, l)
  := by
  rw [call_eq_nextToken, nextToken, h]

theorem call_of_next?_eq_some (h : l.next? = some (t, l')) (c : Call) :
  l.call c = (some t, l')
  := by
  rw [call_eq_nextToken, nextToken, h]

/-- A lexer that has no next token never has one again. -/
theorem isExhausted_of_next?_eq_none (h : l.next? = none) :
  l.IsExhausted
  := by
  intro cs
  induction cs with
  | nil => rfl
  | cons c cs ih =>
    rw [calls, call_of_next?_eq_none h, ih]
    rfl

theorem calls_append (l : Lexer) (cs cs' : List Call) :
  l.calls (cs ++ cs')
    = ((l.calls cs).1 ++ ((l.calls cs).2.calls cs').1, ((l.calls cs).2.calls cs').2)
  := by
  induction cs generalizing l with
  | nil => rfl
  | cons c cs ih =>
    rw [List.cons_append, calls, ih, calls]
    rfl

/-- Where an answer stands among others, the lexer was called after the answers before it, and the
answers after it are to the calls after that one. -/
theorem exists_of_calls_eq_append {earlier later : List (Option Token)} {answer : Option Token}
    (h : l.calls cs = (earlier ++ answer :: later, last)) :
  ∃ cs₁ c cs₂ l₁ l₂, l.calls cs₁ = (earlier, l₁) ∧ l₁.call c = (answer, l₂)
    ∧ l₂.calls cs₂ = (later, last)
  := by
  induction earlier generalizing l cs with
  | nil =>
    cases cs with
    | nil => simp [calls] at h
    | cons c cs =>
      simp only [calls, List.nil_append, Prod.mk.injEq, List.cons.injEq] at h
      obtain ⟨⟨rfl, rfl⟩, rfl⟩ := h
      use [], c, cs, l, (l.call c).2, rfl, rfl
  | cons first earlier ih =>
    cases cs with
    | nil => simp [calls] at h
    | cons c cs =>
      simp only [calls, List.cons_append, Prod.mk.injEq, List.cons.injEq] at h
      obtain ⟨⟨rfl, hlater⟩, hlast⟩ := h
      obtain ⟨cs₁, c', cs₂, l₁, l₂, h₁, h₂⟩ := ih (Prod.ext hlater hlast)
      use c :: cs₁, c', cs₂, l₁, l₂
      rw [calls, h₁]
      use rfl

theorem Reachable.call (h : Reachable source l) (c : Call) :
  Reachable source (l.call c).2
  := by
  cases hn : l.next? with
  | none =>
    rw [call_of_next?_eq_none hn]
    apply h
  | some p =>
    rw [call_of_next?_eq_some hn]
    apply Reachable.next h hn

theorem Reachable.calls (h : Reachable source l) (cs : List Call) :
  Reachable source (l.calls cs).2
  := by
  induction cs generalizing l with
  | nil => apply h
  | cons c cs ih => apply ih (h.call c)

/-- A token takes its part of the source, between what was read before it and what is left. -/
theorem IsIn.source_eq_of_next? {before : List Char} (hl : l.IsIn source before)
    (h : l.next? = some (t, l')) :
  source = String.ofList before ++ t.text ++ String.ofList l'.rest
    ∧ t.span = ⟨(String.ofList before).utf8ByteSize,
      (String.ofList before ++ t.text).utf8ByteSize⟩
    ∧ l'.offset = t.span.stop
  := by
  have hl' := hl.next h
  obtain ⟨hspan, -, -⟩ := hl.slice_next h
  constructor
  · rw [← String.toList_inj, hl'.source_eq]
    simp
  · rw [hspan, hl.offset_eq, hl'.offset_eq]
    simp [← byteLength_ofList]

/-- A lexer is halted by a token that lacks its end, and by nothing else. -/
theorem halted_calls_iff (h : l.halted = false) (cs : List Call) :
  (l.calls cs).2.halted = true ↔ ∃ t, some t ∈ (l.calls cs).1 ∧ t.IsUnterminated
  := by
  induction cs generalizing l with
  | nil => simp [Lexer.calls, h]
  | cons c cs ih =>
    cases hn : l.next? with
    | none =>
      rw [Lexer.calls, call_of_next?_eq_none hn, ih h]
      simp
    | some p =>
      obtain ⟨t, l'⟩ := p
      rw [Lexer.calls, call_of_next?_eq_some hn]
      obtain ⟨-, x, hx, rfl, rfl⟩ := next?_eq_some_iff.mp hn
      by_cases hhalts : x.halts = true
      · -- The lexer stays as the token has left it.
        have hnone : (after l.offset x).next? = none := next?_eq_none_iff.mpr (Or.inl hhalts)
        rw [isExhausted_of_next?_eq_none hnone cs]
        constructor
        · intro _
          use tokenAt l.offset x, List.mem_cons_self
          apply (halts_iff_isUnterminated hx l.offset).mp hhalts
        · intro _
          apply hhalts
      · have hsound : ¬ (tokenAt l.offset x).IsUnterminated := by
          rwa [← halts_iff_isUnterminated hx]
        rw [ih (Bool.eq_false_of_not_eq_true hhalts)]
        constructor
        · rintro ⟨t, ht, hunterminated⟩
          use t, List.mem_cons_of_mem _ ht
        · rintro ⟨t, ht, hunterminated⟩
          rcases List.mem_cons.mp ht with heq | ht
          · cases heq
            contradiction
          · use t

end Lexer

/-! ### Lexers with their answers -/

/-- A lexer with the answers to its calls. -/
structure Branch where
  /-- The lexer. -/
  lexer : Lexer
  /-- The answers, the first one first. -/
  answers : List (Option Token)
  deriving Repr, DecidableEq

namespace Branch

/-- The lexer is called. -/
def call (b : Branch) (c : Call) : Branch where
  lexer := (b.lexer.call c).2
  answers := b.answers ++ [(b.lexer.call c).1]

/-- Calls of a single lexer from the start of a source on have these answers and lead to this
lexer. -/
def ComesFrom (b : Branch) (source : String) : Prop :=
  ∃ cs, (Lexer.ofSource source).calls cs = (b.answers, b.lexer)

theorem ComesFrom.call {b : Branch} {source : String} (h : b.ComesFrom source) (c : Call) :
  (b.call c).ComesFrom source
  := by
  obtain ⟨cs, hcs⟩ := h
  use cs ++ [c]
  rw [Lexer.calls_append, hcs]
  rfl

/-- How a lexer with its answers deals with malformed tokens. -/
structure KeepsProtocol (b : Branch) (source : String) : Prop where
  /-- The lexer has halted exactly if one of its answers is a token without an end. -/
  halted_iff : b.lexer.halted = true ↔ ∃ t, some t ∈ b.answers ∧ t.IsUnterminated
  /-- A token without an end begins with a quote, a bracket, or a slash and an asterisk, it reaches
  the end of the source, and it is the last token. -/
  unterminated : ∀ {earlier t later}, b.answers = earlier ++ some t :: later → t.IsUnterminated →
    (∃ opening ∈ [['\''], ['"'], ['\x60'], ['['], ['/', '*']], opening <+: t.text.toList)
      ∧ (∃ before, source = before ++ t.text
        ∧ t.span = ⟨before.utf8ByteSize, source.utf8ByteSize⟩)
      ∧ (∀ answer ∈ later, answer = none) ∧ b.lexer.IsExhausted
  /-- After an answer without a token, there is never a token again, and the lexer is not changed by
  that call or any later one. -/
  exhausted : ∀ {earlier later}, b.answers = earlier ++ none :: later →
    (∀ answer ∈ later, answer = none) ∧ b.lexer.IsExhausted
      ∧ Branch.ComesFrom ⟨b.lexer, earlier⟩ source
  /-- Any other malformed token is a number that breaks off before something that is no digit, and
  the answers after it are those of a lexer at its end. -/
  brokenOff : ∀ {earlier t later}, b.answers = earlier ++ some t :: later → t.kind = .error →
    ¬ t.IsUnterminated →
    IsBrokenOff t.text.toList
      ∧ ∃ before rest, source = before ++ t.text ++ rest
        ∧ t.span = ⟨before.utf8ByteSize, (before ++ t.text).utf8ByteSize⟩
        ∧ (∀ c ∈ rest.toList.head?, c.isDigit = false)
        ∧ ∃ cs, Lexer.calls ⟨rest.toList, t.span.stop, false⟩ cs = (later, b.lexer)

variable {b : Branch} {source : String} {earlier later : List (Option Token)} {t : Token}

/-- Where a token stands among the answers, it was found at a place in the source, and the answers
after it are those of the lexer after the token. -/
theorem ComesFrom.exists_next? (h : b.ComesFrom source)
    (ht : b.answers = earlier ++ some t :: later) :
  ∃ (l l' : Lexer) (before : List Char) (cs : List Call),
    l.IsIn source before ∧ l.next? = some (t, l') ∧ l'.calls cs = (later, b.lexer)
  := by
  obtain ⟨cs, hcs⟩ := h
  rw [ht] at hcs
  obtain ⟨cs₁, c, cs₂, l₁, l₂, h₁, hc, h₂⟩ := Lexer.exists_of_calls_eq_append hcs
  have hstart : Lexer.Reachable source (Lexer.ofSource source) := .start
  have hreachable := hstart.calls cs₁
  rw [h₁] at hreachable
  obtain ⟨before, hin⟩ := hreachable.isIn
  cases hn : l₁.next? with
  | none =>
    rw [Lexer.call_of_next?_eq_none hn] at hc
    cases hc
  | some p =>
    rw [Lexer.call_of_next?_eq_some hn] at hc
    cases hc
    use l₁, p.2, before, cs₂

theorem ComesFrom.halted_iff (h : b.ComesFrom source) :
  b.lexer.halted = true ↔ ∃ t, some t ∈ b.answers ∧ t.IsUnterminated
  := by
  obtain ⟨cs, hcs⟩ := h
  have hiff := Lexer.halted_calls_iff (l := Lexer.ofSource source) rfl cs
  rwa [hcs] at hiff

theorem ComesFrom.unterminated (h : b.ComesFrom source)
    (ht : b.answers = earlier ++ some t :: later) (hunterminated : t.IsUnterminated) :
  (∃ opening ∈ [['\''], ['"'], ['\x60'], ['['], ['/', '*']], opening <+: t.text.toList)
    ∧ (∃ before, source = before ++ t.text ∧ t.span = ⟨before.utf8ByteSize, source.utf8ByteSize⟩)
    ∧ (∀ answer ∈ later, answer = none) ∧ b.lexer.IsExhausted
  := by
  obtain ⟨l, l', before, cs, hin, hn, hlater⟩ := h.exists_next? ht
  obtain ⟨hsource, hspan, -⟩ := hin.source_eq_of_next? hn
  obtain ⟨-, x, hx, rfl, rfl⟩ := Lexer.next?_eq_some_iff.mp hn
  have hhalts := (halts_iff_isUnterminated hx l.offset).mpr hunterminated
  have hnone : (Lexer.after l.offset x).next? = none := Lexer.next?_eq_none_iff.mpr (Or.inl hhalts)
  have hexhausted := Lexer.isExhausted_of_next?_eq_none hnone
  rw [hexhausted cs] at hlater
  obtain ⟨rfl, hlexer⟩ := Prod.mk.inj hlater
  constructor
  · apply hunterminated.2.opening
  constructor
  · have hrest : (Lexer.after l.offset x).rest = [] := rest_eq_nil_of_halts hx hhalts
    rw [hrest, String.ofList_nil, String.append_empty] at hsource
    use String.ofList before, hsource
    rw [hspan, ← hsource]
  constructor
  · intro answer hanswer
    apply List.eq_of_mem_replicate hanswer
  · rw [← hlexer]
    apply hexhausted

theorem ComesFrom.exhausted (h : b.ComesFrom source) (ht : b.answers = earlier ++ none :: later) :
  (∀ answer ∈ later, answer = none) ∧ b.lexer.IsExhausted
    ∧ Branch.ComesFrom ⟨b.lexer, earlier⟩ source
  := by
  obtain ⟨cs, hcs⟩ := h
  rw [ht] at hcs
  obtain ⟨cs₁, c, cs₂, l₁, l₂, h₁, hc, h₂⟩ := Lexer.exists_of_calls_eq_append hcs
  cases hn : l₁.next? with
  | none =>
    rw [Lexer.call_of_next?_eq_none hn] at hc
    obtain ⟨-, rfl⟩ := Prod.mk.inj hc
    have hexhausted := Lexer.isExhausted_of_next?_eq_none hn
    rw [hexhausted cs₂] at h₂
    obtain ⟨rfl, rfl⟩ := Prod.mk.inj h₂
    constructor
    · intro answer hanswer
      apply List.eq_of_mem_replicate hanswer
    · use hexhausted, cs₁
  | some p =>
    rw [Lexer.call_of_next?_eq_some hn] at hc
    cases hc

theorem ComesFrom.brokenOff (h : b.ComesFrom source) (ht : b.answers = earlier ++ some t :: later)
    (herror : t.kind = .error) (hterminated : ¬ t.IsUnterminated) :
  IsBrokenOff t.text.toList
    ∧ ∃ before rest, source = before ++ t.text ++ rest
      ∧ t.span = ⟨before.utf8ByteSize, (before ++ t.text).utf8ByteSize⟩
      ∧ (∀ c ∈ rest.toList.head?, c.isDigit = false)
      ∧ ∃ cs, Lexer.calls ⟨rest.toList, t.span.stop, false⟩ cs = (later, b.lexer)
  := by
  obtain ⟨l, l', before, cs, hin, hn, hlater⟩ := h.exists_next? ht
  obtain ⟨hsource, hspan, hoffset⟩ := hin.source_eq_of_next? hn
  obtain ⟨-, x, hx, rfl, rfl⟩ := Lexer.next?_eq_some_iff.mp hn
  cases outcome_of_lexeme? hx with
  | wellFormed hkind => contradiction
  | unterminated _ hhalts =>
    exact absurd ((halts_iff_isUnterminated hx l.offset).mp hhalts) hterminated
  | brokenOff _ hhalts htext hdigit =>
    have hplace : Lexer.after l.offset x
        = ⟨x.rest, (Lexer.tokenAt l.offset x).span.stop, false⟩ := by
      rw [Lexer.after, hhalts]
      rfl
    constructor
    · rwa [Lexer.tokenAt, String.toList_ofList]
    · use String.ofList before, String.ofList x.rest, hsource, hspan
      rw [String.toList_ofList, ← hplace]
      use hdigit, cs

/-- The calls of a single lexer keep to the protocol. -/
theorem ComesFrom.keepsProtocol (h : b.ComesFrom source) :
  b.KeepsProtocol source
  where
  halted_iff := h.halted_iff
  unterminated := h.unterminated
  exhausted := h.exhausted
  brokenOff := h.brokenOff

end Branch

/-! ### Sessions -/

/-- What is done in a session; lexers are given by their places. -/
inductive Action where
  /-- A lexer is called. -/
  | call (place : Nat) (c : Call)
  /-- A clone of a lexer is added. -/
  | clone (place : Nat)
  /-- A lexer is restored to a clone of another one. -/
  | restore (place other : Nat)
  deriving Repr, DecidableEq

/-- The lexers over one source. -/
abbrev Session := List Branch

namespace Session

/-- A session with one lexer, at the start of a source. -/
def start (source : String) : Session :=
  [⟨Lexer.ofSource source, []⟩]

/-- A lexer takes the place of another one, if it exists. -/
def put (s : Session) (place : Nat) : Option Branch → Session
  | some b => s.set place b
  | none => s

/-- Something is done in a session; nothing happens if there is no lexer at a place. -/
def step (s : Session) : Action → Session
  | .call place c => s.put place (s[place]?.map fun b => b.call c)
  | .clone place => s ++ s[place]?.toList
  | .restore place other => s.put place s[other]?

/-- Some things are done in a session, one after the other. -/
def run (s : Session) (actions : List Action) : Session :=
  actions.foldl step s

/-- Every lexer of the session is where its own answers have led a single lexer. -/
def ComesFrom (s : Session) (source : String) : Prop :=
  ∀ b ∈ s, b.ComesFrom source

variable {s : Session} {source : String}

theorem comesFrom_start (source : String) :
  (start source).ComesFrom source
  := by
  intro b hb
  rw [List.mem_singleton.mp hb]
  use []
  rfl

theorem ComesFrom.of_getElem? (h : s.ComesFrom source) {place : Nat} :
  ∀ b ∈ s[place]?, b.ComesFrom source
  := by
  intro b hb
  apply h b (List.mem_of_getElem? hb)

theorem ComesFrom.put (h : s.ComesFrom source) {new : Option Branch}
    (hnew : ∀ b ∈ new, b.ComesFrom source) (place : Nat) :
  (s.put place new).ComesFrom source
  := by
  cases new with
  | none => apply h
  | some b =>
    intro b' hb'
    rcases List.mem_or_eq_of_mem_set hb' with hmem | rfl
    · apply h b' hmem
    · apply hnew b' rfl

/-- Nothing that is done leaves a lexer anywhere else. -/
theorem ComesFrom.step (h : s.ComesFrom source) (action : Action) :
  (s.step action).ComesFrom source
  := by
  cases action with
  | call place c =>
    apply h.put
    intro b' hb'
    obtain ⟨b, hb, rfl⟩ := Option.map_eq_some_iff.mp hb'
    apply (h.of_getElem? b hb).call
  | clone place =>
    intro b hb
    rcases List.mem_append.mp hb with hb | hb
    · apply h b hb
    · apply h.of_getElem? b (Option.mem_toList.mp hb)
  | restore place other => apply h.put h.of_getElem?

theorem comesFrom_run (source : String) (actions : List Action) :
  ((start source).run actions).ComesFrom source
  := by
  suffices h : ∀ s : Session, s.ComesFrom source → (s.run actions).ComesFrom source from
    h (start source) (comesFrom_start source)
  induction actions with
  | nil =>
    intro s h
    apply h
  | cons action actions ih =>
    intro s h
    apply ih (s.step action) (h.step action)

/-- Whatever is called, cloned and restored in a session over a source, each of its lexers keeps to
the protocol for malformed tokens by its own answers. -/
theorem run_keepsProtocol (source : String) (actions : List Action) (b : Branch)
    (hb : b ∈ (start source).run actions) :
  b.KeepsProtocol source
  := (comesFrom_run source actions b hb).keepsProtocol

/-- A clone that has halted, next to a lexer that is restored to the place after the number before
the string without an end. -/
theorem run_keepsProtocol_restored :
  let actions : List Action :=
    [.call 0 .nextToken, .clone 0, .call 0 .nextItem, .call 0 .nextToken, .call 0 .nextItem,
      .clone 0, .restore 0 1, .call 0 .nextToken]
  let halted : Branch :=
    ⟨⟨[], 6, true⟩, [some ⟨.error, "1e+", ⟨0, 3⟩⟩, some ⟨.whitespace, " ", ⟨3, 4⟩⟩,
      some ⟨.error, "'a", ⟨4, 6⟩⟩, none]⟩
  let restored : Branch :=
    ⟨⟨['\'', 'a'], 4, false⟩, [some ⟨.error, "1e+", ⟨0, 3⟩⟩, some ⟨.whitespace, " ", ⟨3, 4⟩⟩]⟩
  (halted ∈ (start "1e+ 'a").run actions ∧ halted.KeepsProtocol "1e+ 'a")
    ∧ restored ∈ (start "1e+ 'a").run actions ∧ restored.KeepsProtocol "1e+ 'a"
  := by
  intro actions halted restored
  have hhalted : halted ∈ (start "1e+ 'a").run actions := by decide +kernel
  have hrestored : restored ∈ (start "1e+ 'a").run actions := by decide +kernel
  use ⟨hhalted, run_keepsProtocol _ actions halted hhalted⟩, hrestored
  apply run_keepsProtocol _ actions restored hrestored

end Session

end SqlScribe.Sql
