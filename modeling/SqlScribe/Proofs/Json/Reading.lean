import SqlScribe.Json.Reader
import Mathlib.Data.List.Basic
import Mathlib.Tactic.Use

/-!
# What readers of JSON take off a text

A reader finds a value in a piece of text when it takes the piece off every longer text:
whatever comes after it (`Reads`), or as long as a value can end there (`ReadsInside`).  A value
ends before blank characters, before a comma or a closing bracket, and at the end of the text
(`Ends`); only numbers need that.  Where reading a text has given a value, the part of the text
that was taken off is such a piece; the modules on the several sorts of values say so for
each reader.

Blank characters can stand before every value, and they are skipped (`skipSpace_append`).
-/

namespace SqlScribe.Json

variable {α β : Type}

/-! ### Steps of a reader -/

theorem bind_eq_ok_iff {x : Except Fault α} {f : α → Except Fault β} {b : β} :
  x >>= f = .ok b ↔ ∃ a, x = .ok a ∧ f a = .ok b
  := by
  cases x with
  | error e => simp [bind, Except.bind]
  | ok a => simp [bind, Except.bind]

theorem map_eq_ok_iff {x : Except Fault α} {f : α → β} {b : β} :
  x.map f = .ok b ↔ ∃ a, x = .ok a ∧ f a = b
  := by
  cases x with
  | error e => simp [Except.map]
  | ok a => simp [Except.map]

theorem eq_of_left {σ : Type} {p : Progress σ} {left : Except Fault (List Char)}
    (h : p.left = left) :
  p = ⟨p.state, left⟩
  := by
  rw [← h]

/-! ### Pieces of text -/

/-- The reader finds a value in a piece of text, whatever comes after it. -/
def Reads (read : Reader α) (s : List Char) (x : α) : Prop :=
  ∀ rest, read (s ++ rest) = .ok (x, rest)

/-- A value can end before the text. -/
def Ends (rest : List Char) : Prop :=
  ∀ c ∈ rest.head?, isSpace c = true ∨ c = ',' ∨ c = ']' ∨ c = '\x7d'

/-- The reader finds a value in a piece of text, as long as a value can end after it. -/
def ReadsInside (read : Reader α) (s : List Char) (x : α) : Prop :=
  ∀ rest, Ends rest → read (s ++ rest) = .ok (x, rest)

/-- Any value can end at the end of the text. -/
theorem ends_nil :
  Ends []
  := by
  intro c hc
  contradiction

/-! ### Blank characters -/

/-- The text consists of blank characters of JSON. -/
def AllSpace (b : List Char) : Prop :=
  ∀ c ∈ b, isSpace c = true

theorem allSpace_nil :
  AllSpace []
  := by
  intro c hc
  contradiction

theorem AllSpace.append {a b : List Char} (ha : AllSpace a) (hb : AllSpace b) :
  AllSpace (a ++ b)
  := by
  intro c hc
  rcases List.mem_append.mp hc with hc | hc
  · apply ha c hc
  · apply hb c hc

theorem skipSpace_append {b : List Char} (hb : AllSpace b) (rest : List Char) :
  skipSpace (b ++ rest) = skipSpace rest
  := List.dropWhile_append_of_pos hb

theorem skipSpace_cons {c : Char} (h : isSpace c = false) (rest : List Char) :
  skipSpace (c :: rest) = c :: rest
  := by
  rw [skipSpace, List.dropWhile_cons_of_neg]
  rw [h]
  decide

/-- Blank characters before another one are skipped. -/
theorem skipSpace_append_cons {b : List Char} (hb : AllSpace b) {c : Char} (h : isSpace c = false)
    (rest : List Char) :
  skipSpace (b ++ c :: rest) = c :: rest
  := by
  rw [skipSpace_append hb, skipSpace_cons h]

/-- What is skipped are the blank characters at the start. -/
theorem exists_skipSpace (text : List Char) :
  ∃ b, AllSpace b ∧ text = b ++ skipSpace text
  := by
  use text.takeWhile isSpace
  constructor
  · apply List.all_eq_true.mp List.all_takeWhile
  · apply List.takeWhile_append_dropWhile.symm

theorem isSpace_eq_false_of_skipSpace {text rest : List Char} {c : Char}
    (h : skipSpace text = c :: rest) :
  isSpace c = false
  := by
  have hc := List.head?_dropWhile_not isSpace text
  rw [show text.dropWhile isSpace = c :: rest from h] at hc
  apply hc

/-- Where skipping finds a character, there are blank characters before it. -/
theorem exists_of_skipSpace_eq_cons {text rest : List Char} {c : Char}
    (h : skipSpace text = c :: rest) :
  ∃ b, AllSpace b ∧ text = b ++ c :: rest ∧ isSpace c = false
  := by
  obtain ⟨b, hb, ht⟩ := exists_skipSpace text
  rw [h] at ht
  use b, hb, ht, isSpace_eq_false_of_skipSpace h

/-- A value can end before blank characters and what ends it. -/
theorem ends_append {b rest : List Char} (hb : AllSpace b) (h : Ends rest) :
  Ends (b ++ rest)
  := by
  cases b with
  | nil => apply h
  | cons c b =>
    intro d hd
    cases hd
    left
    apply hb c List.mem_cons_self

theorem readEnd_of_allSpace {text : List Char} (h : AllSpace text) :
  readEnd text = .ok ()
  := by
  have hskip := skipSpace_append h []
  rw [List.append_nil] at hskip
  rw [readEnd, hskip]
  rfl

/-- Nothing but blank characters can be left after a document. -/
theorem allSpace_of_readEnd {text : List Char} {u : Unit} (h : readEnd text = .ok u) :
  AllSpace text
  := by
  rw [readEnd] at h
  split at h
  · next hempty =>
    obtain ⟨b, hb, ht⟩ := exists_skipSpace text
    rw [List.isEmpty_iff.mp hempty, List.append_nil] at ht
    rw [ht]
    apply hb
  · cases h

/-! ### Fixed words and colons -/

theorem eq_append_of_expect {word text rest : List Char} (h : expect word text = .ok rest) :
  text = word ++ rest
  := by
  induction word generalizing text with
  | nil =>
    cases h
    rfl
  | cons c word ih =>
    cases text with
    | nil => contradiction
    | cons d text =>
      rw [expect] at h
      split at h
      · next hc =>
        rw [beq_iff_eq.mp hc, ih h]
        rfl
      · contradiction

/-- A colon is read after blank characters. -/
theorem readColon_append {b : List Char} (hb : AllSpace b) (rest : List Char) :
  readColon (b ++ ':' :: rest) = .ok rest
  := by
  rw [readColon, skipSpace_append_cons hb (by decide)]
  rfl

theorem exists_of_readColon {text rest : List Char} (h : readColon text = .ok rest) :
  ∃ b, AllSpace b ∧ text = b ++ ':' :: rest
  := by
  unfold readColon at h
  split at h
  · next hs =>
    cases h
    obtain ⟨b, hb, ht, -⟩ := exists_of_skipSpace_eq_cons hs
    use b, hb, ht
  · contradiction

end SqlScribe.Json
