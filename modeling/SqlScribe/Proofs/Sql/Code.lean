import SqlScribe.Proofs.Number.Numeral
import SqlScribe.Proofs.Sql.Passage
import SqlScribe.Proofs.Sql.RuleReading

/-!
# Code between quoted texts

A sort of SQL text that is read without errors and can be checked from left to right.  The
check goes from one `CodeState` to the next with every character: the state says which
lexeme the text so far breaks off in (`CodeState.Pending`), and it refuses a character when the
lexeme cannot go on with it and no lexeme of code begins with it.  Numbers are code, and so are
words, blank characters, most operators and punctuation, and all characters outside of ASCII;
quotes, opening brackets and comments are not.

Code in which the check has come to a state is read up to the lexeme that it breaks off in,
and that lexeme is the pending one if what follows does not extend it
(`CodeState.Pending.lexeme?_append`).
-/

namespace SqlScribe.Sql

open Text Number

/-- What the lexeme is that some code breaks off in. -/
inductive CodeState where
  /-- There is none yet. -/
  | fresh
  /-- Blank characters. -/
  | blank
  /-- A word. -/
  | word
  /-- A lexeme that is complete as it stands. -/
  | symbol
  /-- A point, with which a number can begin. -/
  | point
  /-- A colon, which can be doubled. -/
  | colon
  /-- An operator with which longer lexemes can begin. -/
  | operator
  /-- The digits of a number. -/
  | whole
  /-- A number with a point. -/
  | fraction
  /-- A number with the letter of an exponent. -/
  | letter
  /-- A number with the letter and the sign of an exponent. -/
  | letterSign
  /-- A number with an exponent. -/
  | power
  deriving Repr, DecidableEq

namespace CodeState

/-- All states. -/
def all : List CodeState :=
  [fresh, blank, word, symbol, point, colon, operator, whole, fraction, letter, letterSign, power]

theorem mem_all (q : CodeState) :
  q ∈ all
  := by
  cases q <;> decide

/-- The characters that are lexemes wherever they stand in code. -/
def symbols : List Char :=
  ['(', ')', ',', ';', '=', '*', '%', '^', '~', '#', '$', '{', '}', ']']

/-- The characters that are lexemes unless a longer one begins with them. -/
def operatorStarts : List Char :=
  ['+', '-', '/', '<', '>', '!', '|', '&', '?', '@']

/-- The characters with which longer operators go on, and comments. -/
def operatorNexts : List Char :=
  ['=', '>', '<', '|', '&', '@', '*', '-']

/-- The state after the first character of a lexeme. -/
def start? (c : Char) : Option CodeState :=
  if isBlank c then some blank
  else if c.isDigit then some whole
  else if c.isAlpha || c == '_' then some word
  else if symbols.contains c || 0x80 ≤ c.toNat then some symbol
  else if c == '.' then some point
  else if c == ':' then some colon
  else if operatorStarts.contains c then some operator
  else none

/-- Whether a character is the letter of an exponent. -/
def isLetter (c : Char) : Bool :=
  c == 'e' || c == 'E'

/-- Whether the lexeme is complete when the text ends or a quoted text follows. -/
def isComplete : CodeState → Bool
  | letter | letterSign => false
  | _ => true

/-- Whether the lexeme ends before a character. -/
def endsBefore : CodeState → Char → Bool
  | fresh, _ => true
  | blank, c => !isBlank c
  | word, c => !isWordCharacter c
  | symbol, _ => true
  | point, c => !c.isDigit
  | colon, c => c != ':' && c != '='
  | operator, c => !operatorNexts.contains c
  | whole, c => !c.isDigit && c != '.' && !isLetter c
  | fraction, c => !c.isDigit && !isLetter c
  | letter, _ => false
  | letterSign, _ => false
  | power, c => !c.isDigit

/-- The state in which the lexeme goes on with a character. -/
def extend? : CodeState → Char → Option CodeState
  | blank, _ => some blank
  | word, _ => some word
  | point, _ => some fraction
  | colon, c => if c == ':' then some symbol else none
  | whole, c => some (if c.isDigit then whole else if c == '.' then fraction else letter)
  | fraction, c => some (if c.isDigit then fraction else letter)
  | letter, c =>
    if c.isDigit then some power else if c == '+' || c == '-' then some letterSign else none
  | letterSign, c => if c.isDigit then some power else none
  | power, _ => some power
  | _, _ => none

/-- The state after a character, unless it is refused. -/
def step? (q : CodeState) (c : Char) : Option CodeState :=
  if q.endsBefore c then start? c else q.extend? c

/-- The state after some code. -/
def run? (q : CodeState) (text : List Char) : Option CodeState :=
  text.foldlM step? q

theorem run?_append (q : CodeState) (a b : List Char) :
  q.run? (a ++ b) = (q.run? a).bind fun q' => q'.run? b
  := List.foldlM_append

/-! ### The pending lexeme -/

/-- The text is one that a lexeme breaks off in at a state. -/
inductive Pending : CodeState → List Char → Prop
  | fresh : Pending fresh []
  | blank {u : List Char} : u ≠ [] → (∀ c ∈ u, isBlank c = true) → Pending blank u
  | word {c : Char} {u : List Char} : (c.isAlpha || c == '_') = true →
    (∀ d ∈ u, isWordCharacter d = true) → Pending word (c :: u)
  | symbol {c : Char} : c ∈ symbols → Pending symbol [c]
  | foreign {c : Char} : 0x80 ≤ c.toNat → isBlank c = false → Pending symbol [c]
  | colons : Pending symbol [':', ':']
  | point : Pending point ['.']
  | colon : Pending colon [':']
  | operator {c : Char} : c ∈ operatorStarts → Pending operator [c]
  | whole {u : List Char} : IsDigits u → Pending whole u
  | fraction {u : List Char} : IsSignificand u → '.' ∈ u → Pending fraction u
  | letter {u : List Char} {c : Char} : IsSignificand u → c = 'e' ∨ c = 'E' →
    Pending letter (u ++ [c])
  | letterSign {u : List Char} {c d : Char} : IsSignificand u → c = 'e' ∨ c = 'E' →
    d = '+' ∨ d = '-' → Pending letterSign (u ++ [c, d])
  | power {u sign digits : List Char} {c : Char} : IsSignificand u → c = 'e' ∨ c = 'E' →
    IsSign sign → IsDigits digits → Pending power (u ++ c :: (sign ++ digits))

/-- The first character of a lexeme is pending after it. -/
theorem pending_start {q : CodeState} {c : Char} (h : start? c = some q) :
  Pending q [c]
  := by
  unfold start? at h
  split at h
  · next hc =>
    cases h
    apply Pending.blank (by simp)
    intro d hd
    rwa [List.mem_singleton.mp hd]
  split at h
  · next hc =>
    cases h
    apply Pending.whole
    constructor
    · simp
    · intro d hd
      rwa [List.mem_singleton.mp hd]
  split at h
  · next hc =>
    cases h
    apply Pending.word hc
    simp
  split at h
  · next hb _ _ hc =>
    cases h
    rw [Bool.or_eq_true, List.contains_iff_mem, decide_eq_true_iff] at hc
    rcases hc with hc | hc
    · exact Pending.symbol hc
    · exact Pending.foreign hc (Bool.eq_false_iff.mpr hb)
  split at h
  · next hc =>
    cases h
    rw [beq_iff_eq.mp hc]
    apply Pending.point
  split at h
  · next hc =>
    cases h
    rw [beq_iff_eq.mp hc]
    apply Pending.colon
  split at h
  · next hc =>
    cases h
    exact Pending.operator (List.contains_iff_mem.mp hc)
  · contradiction

theorem isDigits_concat {s : List Char} {c : Char} (hs : ∀ d ∈ s, d.isDigit = true)
    (hc : c.isDigit = true) :
  IsDigits (s ++ [c])
  := by
  constructor
  · simp
  · refine List.forall_mem_append.mpr ⟨hs, ?_⟩
    exact List.forall_mem_singleton.mpr hc

/-- A digit alone is digits. -/
theorem isDigits_singleton {c : Char} (hc : c.isDigit = true) :
  IsDigits [c]
  := isDigits_concat (s := []) (by simp) hc

theorem isSignificand_concat {s : List Char} {c : Char} (h : IsSignificand s)
    (hc : c.isDigit = true) :
  IsSignificand (s ++ [c])
  := by
  cases h with
  | whole hd => exact IsSignificand.whole (isDigits_concat hd.all hc)
  | point hd hf =>
    rw [List.append_assoc]
    apply IsSignificand.point hd (isDigits_concat hf hc).all
  | fraction hd => exact IsSignificand.fraction (isDigits_concat hd.all hc)

variable {q q' : CodeState} {u : List Char} {c : Char}

theorem Pending.extend_whole (hu : IsDigits u) (hc : CodeState.whole.endsBefore c = false)
    (h : CodeState.whole.extend? c = some q') :
  Pending q' (u ++ [c])
  := by
  cases h
  split
  · next hd => exact Pending.whole (isDigits_concat hu.all hd)
  · next hd =>
    split
    · next hp =>
      rw [beq_iff_eq.mp hp]
      apply Pending.fraction
      · apply IsSignificand.point hu
        simp
      · simp
    · next hp =>
      apply Pending.letter (.whole hu)
      have hp' : c ≠ '.' := by simpa using hp
      have hl : isLetter c = true := by simpa [endsBefore, hd, hp'] using hc
      simpa [isLetter] using hl

theorem Pending.extend_fraction (hu : IsSignificand u) (hp : '.' ∈ u)
    (hc : CodeState.fraction.endsBefore c = false) (h : CodeState.fraction.extend? c = some q') :
  Pending q' (u ++ [c])
  := by
  cases h
  split
  · next hd => exact Pending.fraction (isSignificand_concat hu hd) (by simp [hp])
  · next hd =>
    apply Pending.letter hu
    have hl : isLetter c = true := by simpa [endsBefore, hd] using hc
    simpa [isLetter] using hl

theorem Pending.extend_letter {l : Char} (hu : IsSignificand u) (hl : l = 'e' ∨ l = 'E')
    (h : CodeState.letter.extend? c = some q') :
  Pending q' (u ++ [l, c])
  := by
  rw [extend?] at h
  split at h
  · next hd =>
    cases h
    have hsign : IsSign [] := Or.inl rfl
    exact Pending.power hu hl hsign (isDigits_singleton hd)
  · simp only [Option.ite_none_right_eq_some, Bool.or_eq_true, beq_iff_eq] at h
    obtain ⟨hsign, h⟩ := h
    cases h
    exact Pending.letterSign hu hl hsign

theorem Pending.extend_letterSign {l d : Char} (hu : IsSignificand u) (hl : l = 'e' ∨ l = 'E')
    (hsign : d = '+' ∨ d = '-') (h : CodeState.letterSign.extend? c = some q') :
  Pending q' (u ++ [l, d, c])
  := by
  simp only [extend?, Option.ite_none_right_eq_some] at h
  obtain ⟨hd, h⟩ := h
  cases h
  have hsign' : IsSign [d] := by
    rcases hsign with rfl | rfl
    · exact Or.inr (Or.inl rfl)
    · exact Or.inr (Or.inr rfl)
  exact Pending.power hu hl hsign' (isDigits_singleton hd)

/-- A lexeme that goes on with a character is pending after it. -/
theorem Pending.extend (hu : Pending q u) (hc : q.endsBefore c = false)
    (h : q.extend? c = some q') :
  Pending q' (u ++ [c])
  := by
  cases hu with
  | fresh => contradiction
  | blank hne hall =>
    cases h
    apply Pending.blank (by simp)
    refine List.forall_mem_append.mpr ⟨hall, ?_⟩
    simpa [endsBefore] using hc
  | word ha hall =>
    cases h
    apply Pending.word ha
    refine List.forall_mem_append.mpr ⟨hall, ?_⟩
    simpa [endsBefore] using hc
  | symbol => contradiction
  | foreign => contradiction
  | colons => contradiction
  | point =>
    cases h
    have hd : c.isDigit = true := by simpa [endsBefore] using hc
    apply Pending.fraction
    · exact IsSignificand.fraction (isDigits_singleton hd)
    · simp
  | colon =>
    simp only [extend?, Option.ite_none_right_eq_some, beq_iff_eq] at h
    obtain ⟨rfl, h⟩ := h
    cases h
    apply Pending.colons
  | operator => contradiction
  | whole hd => exact Pending.extend_whole hd hc h
  | fraction hs hp => exact Pending.extend_fraction hs hp hc h
  | letter hs hl =>
    rw [List.append_assoc]
    exact Pending.extend_letter hs hl h
  | letterSign hs hl hsign =>
    rw [List.append_assoc]
    exact Pending.extend_letterSign hs hl hsign h
  | power hs hl hsign hd =>
    cases h
    have hdigit : c.isDigit = true := by simpa [endsBefore] using hc
    rw [List.append_assoc, List.cons_append, List.append_assoc]
    exact Pending.power hs hl hsign (isDigits_concat hd.all hdigit)

end CodeState

end SqlScribe.Sql
