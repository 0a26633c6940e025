import Mathlib.Data.List.Infix
import SqlScribe.Text.Run

/-!
# How far a piece of text reaches

Two ways of saying how far a piece at the start of a text reaches, without saying how it
is found.  `IsLongestStart` is the longest start with a property, and `IsFirstEnd` is the
start through the first occurrence of a mark that closes the text before it; which
occurrences close is a property of the text between.  Both pieces are unique.

A start is the longest one when it has the property and no longer start has it, and
`isLongestStart_of_head` reduces that to the next character.  First ends are found by going
through the text (`FindsFirstEnd`).
-/

namespace SqlScribe.Text

/-! ### Longest starts -/

/-- The longest start of a text with a property. -/
structure IsLongestStart (P : List Char → Prop) (text start : List Char) : Prop where
  /-- It is a start of the text. -/
  start_of : start <+: text
  /-- It has the property. -/
  holds : P start
  /-- No longer start has it. -/
  length_le : ∀ other, other <+: text → P other → other.length ≤ start.length

theorem IsLongestStart.unique {P : List Char → Prop} {text a b : List Char}
    (ha : IsLongestStart P text a) (hb : IsLongestStart P text b) :
  a = b
  := by
  have hab := hb.length_le a ha.start_of ha.holds
  have hba := ha.length_le b hb.start_of hb.holds
  have hp := List.prefix_of_prefix_length_le ha.start_of hb.start_of hab
  exact hp.eq_of_length (Nat.le_antisymm hab hba)

/-- A start with a property is the longest one if no start that goes on with the next
character has the property. -/
theorem isLongestStart_of_head {P : List Char → Prop} {start rest : List Char} (h : P start)
    (hnext : ∀ c more, c ∈ rest.head? → ¬ P (start ++ c :: more)) :
  IsLongestStart P (start ++ rest) start
  where
  start_of := List.prefix_append start rest
  holds := h
  length_le := by
    intro other ho hP
    by_contra hlt
    have hs : start <+: other := by
      apply List.prefix_of_prefix_length_le (List.prefix_append start rest) ho
      omega
    obtain ⟨more, rfl⟩ := hs
    have hm : more <+: rest := (List.prefix_append_right_inj start).mp ho
    cases more with
    | nil => simp at hlt
    | cons c more =>
      obtain ⟨tail, rfl⟩ := hm
      apply hnext c more _ hP
      simp

/-- The run of a test is the longest start of characters that pass it. -/
theorem isLongestStart_splitRun (p : Char → Bool) (text : List Char) :
  IsLongestStart (fun s => ∀ c ∈ s, p c = true) text (splitRun p text).1
  := by
  have hall : ∀ c ∈ (splitRun p text).1, p c = true :=
    List.all_eq_true.mp (splitRun_fst_all text)
  have h : IsLongestStart (fun s => ∀ c ∈ s, p c = true)
      ((splitRun p text).1 ++ (splitRun p text).2) (splitRun p text).1 := by
    apply isLongestStart_of_head hall
    intro c more hc hP
    have hpass := hP c (by simp)
    rw [head?_splitRun_snd text c hc] at hpass
    contradiction
  rwa [splitRun_append] at h

/-! ### First ends -/

/-- The text before the first occurrence of a mark that closes it. -/
structure IsFirstEnd (closes : List Char → Prop) (mark text body after : List Char) : Prop where
  /-- The text goes on with the mark. -/
  text_eq : text = body ++ mark ++ after
  /-- The mark closes the text before it. -/
  holds : closes body
  /-- No earlier occurrence of the mark closes the text before it. -/
  length_le : ∀ body' after', text = body' ++ mark ++ after' → closes body' →
    body.length ≤ body'.length

/-- No occurrence of a mark closes the text before it. -/
def HasNoEnd (closes : List Char → Prop) (mark text : List Char) : Prop :=
  ∀ body after, text = body ++ mark ++ after → ¬ closes body

theorem IsFirstEnd.unique {closes : List Char → Prop} {mark text a b after after' : List Char}
    (ha : IsFirstEnd closes mark text a after) (hb : IsFirstEnd closes mark text b after') :
  a = b ∧ after = after'
  := by
  have hab := ha.length_le b after' hb.text_eq hb.holds
  have hba := hb.length_le a after ha.text_eq ha.holds
  have h := ha.text_eq.symm.trans hb.text_eq
  rw [List.append_assoc, List.append_assoc] at h
  obtain ⟨rfl, h'⟩ := List.append_inj h (Nat.le_antisymm hab hba)
  exact ⟨rfl, List.append_cancel_left h'⟩

/-- The start through the first end and the text after it, or the lack of such an end. -/
def FindsFirstEnd (closes : List Char → Prop) (mark text : List Char) :
    Option (List Char × List Char) → Prop
  | some (start, after) => ∃ body, start = body ++ mark ∧ IsFirstEnd closes mark text body after
  | none => HasNoEnd closes mark text

theorem findsFirstEnd_nil {closes : List Char → Prop} {mark : List Char} (h : mark ≠ []) :
  FindsFirstEnd closes mark [] none
  := by
  intro body after he
  simp_all

/-- A mark at the start of a text is its first end, if it closes the empty text. -/
theorem findsFirstEnd_here {closes : List Char → Prop} (mark after : List Char) (h : closes []) :
  FindsFirstEnd closes mark (mark ++ after) (some (mark, after))
  := by
  use []
  constructor
  · rfl
  · constructor
    · rfl
    · exact h
    · intro body' after' _ _
      apply Nat.zero_le

/-- If no mark that closes stands at the start of a text, then its first end is that of the
text after the first character. -/
theorem findsFirstEnd_later {closes : List Char → Prop} {mark : List Char} {c : Char}
    {rest : List Char} {found : Option (List Char × List Char)}
    (hc : mark <+: c :: rest → ¬ closes [])
    (h : FindsFirstEnd (fun body => closes (c :: body)) mark rest found) :
  FindsFirstEnd closes mark (c :: rest) (found.map fun (start, after) => (c :: start, after))
  := by
  have hbody : ∀ body after, c :: rest = body ++ mark ++ after → closes body →
      ∃ body', body = c :: body' ∧ rest = body' ++ mark ++ after := by
    intro body after he hcl
    cases body with
    | nil => exact absurd hcl (hc ⟨after, by simpa using he.symm⟩)
    | cons d body' =>
      obtain ⟨rfl, hr⟩ := List.cons.inj he
      exact ⟨body', rfl, hr⟩
  cases found with
  | none =>
    intro body after he hcl
    obtain ⟨body', rfl, hr⟩ := hbody body after he hcl
    apply h body' after hr hcl
  | some s =>
    obtain ⟨body, hs, hf⟩ := h
    use c :: body
    constructor
    · simp [hs]
    · constructor
      · rw [hf.text_eq]
        rfl
      · apply hf.holds
      · intro body' after' he hcl
        obtain ⟨body'', rfl, hr⟩ := hbody body' after' he hcl
        apply Nat.succ_le_succ
        apply hf.length_le body'' after' hr hcl

end SqlScribe.Text
