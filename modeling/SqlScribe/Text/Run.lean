/-!
# Runs of characters

The run of a test at the start of a text is the longest start of which all characters pass
the test.  `splitRun` splits a text after it: the two parts make up the text, the first part
passes the test throughout, and the second part does not begin with a character that does.
-/

namespace SqlScribe.Text

/-- Splits a text after the run of a test at its start. -/
def splitRun (p : Char → Bool) (text : List Char) : List Char × List Char :=
  (text.takeWhile p, text.dropWhile p)

variable {p : Char → Bool}

/-- The two parts make up the text. -/
theorem splitRun_append (text : List Char) :
  (splitRun p text).1 ++ (splitRun p text).2 = text
  := List.takeWhile_append_dropWhile

/-- A text whose first character passes the test starts with a run of that character at
least. -/
theorem splitRun_cons_of_pos {c : Char} {rest : List Char} (h : p c = true) :
  splitRun p (c :: rest) = (c :: (splitRun p rest).1, (splitRun p rest).2)
  := by
  simp [splitRun, h]

/-- A text whose first character fails the test starts with an empty run. -/
theorem splitRun_cons_of_neg {c : Char} {rest : List Char} (h : ¬ p c = true) :
  splitRun p (c :: rest) = ([], c :: rest)
  := by
  simp [splitRun, h]

/-- The characters of the run pass the test. -/
theorem splitRun_fst_all (text : List Char) :
  (splitRun p text).1.all p = true
  := List.all_takeWhile

/-- The text after the run does not begin with a character that passes the test. -/
theorem head?_splitRun_snd (text : List Char) :
  ∀ c ∈ (splitRun p text).2.head?, p c = false
  := by
  intro c hc
  have h := List.head?_dropWhile_not p text
  rw [show (text.dropWhile p).head? = some c from hc] at h
  exact h

/-- Characters that pass the test are the run, if what follows does not begin with another. -/
theorem splitRun_eq {start rest : List Char} (hs : ∀ c ∈ start, p c = true)
    (hr : ∀ c ∈ rest.head?, p c = false) :
  splitRun p (start ++ rest) = (start, rest)
  := by
  unfold splitRun
  rw [List.takeWhile_append_of_pos hs, List.dropWhile_append_of_pos hs]
  cases rest with
  | nil => simp
  | cons c rest => simp [hr c rfl]

end SqlScribe.Text
