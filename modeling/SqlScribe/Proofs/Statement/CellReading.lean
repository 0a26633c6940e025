import Mathlib.Data.Bool.AllAny
import SqlScribe.Proofs.Number.Numeral
import SqlScribe.Proofs.Statement.PartReading
import SqlScribe.Statement.Cell

/-!
# Reading cells

A reader that takes a cell off a statement as it stands there.  A cell ends at the first
comma, closing parenthesis or space that is neither in a quoted text nor between parentheses,
and `cellText` goes through the text to that end, counting the parentheses that are open.

`Scans` says how it goes through a piece of text that lies within a cell.  Pieces one after the
other are gone through one after the other, so the cells of a row, which are numerals, words,
quoted texts with a cast, or calls with two quoted texts, are read back whatever the texts in
them (`reads_cell`).
-/

namespace SqlScribe

open Text Text.Reader

/-- The style of the quoted texts that begin with a character. -/
def Dialect.quoteAt? (d : Dialect) (c : Char) : Option Quoted.Style :=
  if c == d.literalStyle.mark then some d.literalStyle
  else if c == d.identifierStyle.mark then some d.identifierStyle
  else none

namespace Statement

/-- Whether a cell ends at a character outside of quoted texts and parentheses. -/
def endsCell (c : Char) : Bool :=
  c == ',' || c == ')' || c == ' '

/-- The number of open parentheses after a character. -/
def depthAfter (depth : Nat) (c : Char) : Nat :=
  if c == '(' then depth + 1 else if c == ')' then depth - 1 else depth

/-- Reads up to the end of a cell in which some parentheses are open. -/
def cellText (d : Dialect) (depth : Nat) : Reader (List Char)
  | [] => some ([], [])
  | c :: rest =>
    match d.quoteAt? c with
    | some style =>
      match style.read? (c :: rest) with
      | some (_, after) =>
        if after.length ≤ rest.length then
          (cellText d depth after).map fun (s, more) =>
            ((c :: rest).take ((c :: rest).length - after.length) ++ s, more)
        else none
      | none => none
    | none =>
      if depth = 0 ∧ endsCell c = true then some ([], c :: rest)
      else (cellText d (depthAfter depth c) rest).map fun (s, more) => (c :: s, more)
termination_by text => text.length

/-- Reads a cell. -/
def cell (d : Dialect) : Reader String :=
  do return String.ofList (← cellText d 0)

/-- The reading of a cell goes through a piece of text, from one number of open parentheses to
another, as long as the text after it satisfies a condition. -/
def Scans (d : Dialect) (depth : Nat) (s : List Char) (depth' : Nat)
    (follow : List Char → Prop) : Prop :=
  ∀ rest, follow rest →
    cellText d depth (s ++ rest) = (cellText d depth' rest).map fun (t, more) => (s ++ t, more)

variable {d : Dialect} {depth depth' depth'' : Nat} {s s' : List Char}
  {follow follow' : List Char → Prop}

theorem Scans.append (h : Scans d depth s depth' follow) (h' : Scans d depth' s' depth'' follow')
    (hfollow : ∀ rest, follow' rest → follow (s' ++ rest)) :
  Scans d depth (s ++ s') depth'' follow'
  := by
  intro rest hrest
  rw [List.append_assoc, h _ (hfollow rest hrest), h' rest hrest, Option.map_map]
  congr 1
  funext p
  simp

theorem scans_nil :
  Scans d depth [] depth Anything
  := by
  intro rest _
  simp

theorem scans_character {c : Char} (hq : d.quoteAt? c = none)
    (hc : ¬ (depth = 0 ∧ endsCell c = true)) :
  Scans d depth [c] (depthAfter depth c) Anything
  := by
  intro rest _
  rw [List.singleton_append, cellText, hq]
  dsimp only
  rw [if_neg hc]
  rfl

/-- The character has no meaning of its own in a cell. -/
def IsPlain (d : Dialect) (c : Char) : Prop :=
  d.quoteAt? c = none ∧ c ∉ ['(', ')', ',', ' ']

instance (c : Char) : Decidable (IsPlain d c) :=
  inferInstanceAs (Decidable (_ ∧ _))

theorem scans_plain (h : ∀ c ∈ s, IsPlain d c) :
  Scans d depth s depth Anything
  := by
  induction s with
  | nil => exact scans_nil
  | cons c s ih =>
    obtain ⟨hq, hc⟩ := h c List.mem_cons_self
    simp only [List.mem_cons, List.not_mem_nil, or_false, not_or] at hc
    have hends : ¬ (depth = 0 ∧ endsCell c = true) := by simp [endsCell, hc]
    have hdepth : depthAfter depth c = depth := by simp [depthAfter, hc]
    have hone : Scans d depth [c] (depthAfter depth c) Anything := scans_character hq hends
    have hmore : Scans d depth s depth Anything := by
      apply ih
      intro e he
      exact h e (List.mem_cons_of_mem c he)
    rw [hdepth] at hone
    exact hone.append hmore fun _ _ => trivial

/-- A quoted text is gone through as a whole. -/
theorem scans_quoted {style : Quoted.Style} (h : d.quoteAt? style.mark = some style)
    (text : List Char) :
  Scans d depth (style.encode text) depth (NotBefore style.mark)
  := by
  intro rest hrest
  have hread := Quoted.Style.read?_encode_append text hrest
  have htaken : (style.encode text ++ rest).take
      ((style.encode text ++ rest).length - rest.length) = style.encode text := by
    simp
  rw [Quoted.Style.encode, List.cons_append] at hread htaken ⊢
  rw [cellText, h]
  dsimp only
  rw [hread]
  dsimp only
  rw [if_pos, htaken]
  simp only [List.length_cons, List.length_append]
  omega

/-- The text goes on where a cell ends. -/
def AtCellEnd (rest : List Char) : Prop :=
  ∃ c ∈ rest.head?, endsCell c = true

theorem quoteAt?_of_endsCell {c : Char} (h : endsCell c = true) :
  d.quoteAt? c = none
  := by
  simp only [endsCell, Bool.or_eq_true, beq_iff_eq] at h
  rcases h with (rfl | rfl) | rfl <;> cases d <;> decide

/-- A text that is gone through with no parenthesis open at its end is a cell. -/
theorem reads_cell_of_scans (h : Scans d 0 s 0 follow)
    (hfollow : ∀ rest, AtCellEnd rest → follow rest) :
  Reads (cell d) (String.ofList s) s AtCellEnd
  := by
  have htext : Reads (cellText d 0) s s AtCellEnd := by
    intro rest hrest
    have hs := h rest (hfollow rest hrest)
    obtain ⟨c, hc, hends⟩ := hrest
    cases rest with
    | nil => contradiction
    | cons d' rest =>
      cases hc
      have hstop : cellText d 0 (c :: rest) = some ([], c :: rest) := by
        rw [cellText, quoteAt?_of_endsCell hends]
        simp [hends]
      change cellText d 0 (s ++ c :: rest) = _
      rw [hs, hstop]
      simp
  exact htext.bind_pure String.ofList

/-! ### The cells of rows -/

/-- A cell as it is written. -/
def Cell.written (d : Dialect) (x : Cell) : List Char :=
  textOf d (x.fragments d)

/-- The cell is read back as it is written. -/
def Cell.IsLegible (d : Dialect) (x : Cell) : Prop :=
  Reads (cell d) (String.ofList (x.written d)) (x.written d) AtCellEnd

theorem isPlain_of_not_mem {c : Char} (h : c ∉ ['\'', '"', '\x60', '(', ')', ',', ' ']) :
  IsPlain d c
  := by
  simp only [List.mem_cons, List.not_mem_nil, or_false, not_or] at h
  constructor
  · cases d <;> simp [Dialect.quoteAt?, Dialect.literalStyle, Dialect.identifierStyle, h]
  · simp [h]

theorem isPlain_of_isNumeral {n : List Char} (h : Number.IsNumeral n) :
  ∀ c ∈ n, IsPlain d c
  := by
  have hall : ∀ c ∈ ['\'', '"', '\x60', '(', ')', ',', ' '],
      ¬ (c.isDigit = true ∨ c ∈ ['+', '-', '.', 'e', 'E']) := by
    refine List.all_iff_forall_prop.mp ?_
    decide
  intro c hc
  apply isPlain_of_not_mem
  intro hm
  exact hall c hm (h.characters c hc)

theorem isLegible_of_plain {x : Cell} (h : ∀ c ∈ x.written d, IsPlain d c) :
  x.IsLegible d
  := reads_cell_of_scans (scans_plain h) fun _ _ => trivial

theorem scans_literal (text : String) :
  Scans d depth ((Fragment.literal text).write d) depth (NotBefore d.literalStyle.mark)
  := by
  apply scans_quoted
  simp [Dialect.quoteAt?]

/-- A quoted text ends where a cell ends. -/
theorem notBefore_of_atCellEnd {rest : List Char} (h : AtCellEnd rest) :
  NotBefore d.literalStyle.mark rest
  := by
  obtain ⟨c, hc, hends⟩ := h
  rintro e he rfl
  cases hc.symm.trans he
  cases d <;> contradiction

theorem isLegible_text (s : String) {cast : Option String}
    (hcast : ∀ c ∈ cast, c ≠ "" ∧ ∀ e ∈ c.toList, IsPlain d e) :
  (Cell.text s cast).IsLegible d
  := by
  cases cast with
  | none =>
    have hwritten : (Cell.text s none).written d = (Fragment.literal s).write d := by
      simp [Cell.written, textOf, Cell.fragments]
    rw [Cell.IsLegible, hwritten]
    exact reads_cell_of_scans (scans_literal s) fun _ => notBefore_of_atCellEnd
  | some c =>
    obtain ⟨hne, hplain⟩ := hcast c rfl
    have hwritten : (Cell.text s (some c)).written d
        = (Fragment.literal s).write d ++ c.toList := by
      simp [Cell.written, textOf, Cell.fragments, Fragment.write]
    rw [Cell.IsLegible, hwritten]
    apply reads_cell_of_scans ((scans_literal s).append (scans_plain hplain) _)
    · intro _ _
      trivial
    · intro rest _
      cases hc : c.toList with
      | nil => exact absurd (String.toList_eq_nil_iff.mp hc) hne
      | cons e more =>
        rintro e' he rfl
        cases he
        have he := (hplain _ (by rw [hc]; exact List.mem_cons_self)).1
        simp [Dialect.quoteAt?] at he

theorem isLegible_timestamp (s : String) :
  (Cell.timestamp s).IsLegible d
  := by
  have hwritten : (Cell.timestamp s).written d
      = "TO_TIMESTAMP".toList ++ (['('] ++ ((Fragment.literal s).write d
        ++ ([','] ++ ([' '] ++ ((Fragment.literal Cell.timestampMask).write d ++ [')']))))) := by
    simp [Cell.written, textOf, Cell.fragments, Fragment.write]
  have hplain : ∀ c ∈ "TO_TIMESTAMP".toList, IsPlain d c := by
    intro c hc
    apply isPlain_of_not_mem
    revert c
    refine List.all_iff_forall_prop.mp ?_
    decide
  have hquote : ∀ c ∈ ['(', ')', ',', ' '], d.quoteAt? c = none := by
    refine List.all_iff_forall_prop.mp ?_
    cases d <;> decide
  rw [Cell.IsLegible, hwritten]
  have hclose : Scans d 1 [')'] 0 Anything := scans_character (hquote _ (by decide)) (by decide)
  have hspace : Scans d 1 [' '] 1 Anything := scans_character (hquote _ (by decide)) (by decide)
  have hcomma : Scans d 1 [','] 1 Anything := scans_character (hquote _ (by decide)) (by decide)
  have hopen : Scans d 0 ['('] 1 Anything := scans_character (hquote _ (by decide)) (by decide)
  have hmark : ∀ c ∈ [',', ')'], ∀ more : List Char, NotBefore d.literalStyle.mark (c :: more) := by
    rintro c hc more e he rfl
    cases he
    revert hc
    cases d <;> decide
  have hsecond := hspace.append ((scans_literal Cell.timestampMask).append hclose
    fun rest _ => hmark ')' (by decide) rest) fun _ _ => trivial
  have hfirst := (scans_literal s).append (hcomma.append hsecond fun _ _ => trivial)
    fun rest _ => hmark ',' (by decide) _
  have hcall := (scans_plain hplain).append (hopen.append hfirst fun _ _ => trivial)
    fun _ _ => trivial
  exact reads_cell_of_scans hcall fun _ _ => trivial

/-- What a value is cast by has no meaning of its own in a cell. -/
theorem isPlain_castSuffix {t : ColumnType} :
  ∀ c ∈ d.castSuffix? t, c ≠ "" ∧ ∀ e ∈ c.toList, IsPlain d e
  := by
  intro c h
  cases d with
  | postgreSql =>
    simp only [Dialect.castSuffix?] at h
    split at h
    · cases h
      constructor
      · decide
      · refine List.all_iff_forall_prop.mp ?_
        decide
    · split at h
      · cases h
        constructor
        · decide
        · refine List.all_iff_forall_prop.mp ?_
          decide
      · contradiction
  | _ => contradiction

theorem isLegible_boolean (b : Bool) :
  (Cell.boolean b).IsLegible d
  := by
  apply isLegible_of_plain
  refine List.all_iff_forall_prop.mp ?_
  cases d <;> cases b <;> decide

theorem isLegible_ofWritable (t : ColumnType) (v : Value) :
  (Cell.ofWritable d t v).IsLegible d
  := by
  have htext : (Cell.text v.display none).IsLegible d := by
    apply isLegible_text
    intro c hc
    contradiction
  unfold Cell.ofWritable
  split
  · split
    · next n hn =>
      apply isLegible_of_plain
      have hwritten : (Cell.number n).written d = n.toList := by
        simp [Cell.written, textOf, Cell.fragments, Fragment.write]
      rw [hwritten]
      exact isPlain_of_isNumeral (Value.isNumeral_of_asNumber? hn)
    · exact htext
  split
  · split
    · apply isLegible_boolean
    · exact htext
  · unfold Cell.ofText
    split
    · apply isLegible_timestamp
    · exact isLegible_text _ isPlain_castSuffix

/-- The cell of any value is read back as it is written. -/
theorem isLegible_ofValue (t : ColumnType) (v : Option Value) :
  (Cell.ofValue d t v).IsLegible d
  := by
  have hnull : Cell.null.IsLegible d := by
    apply isLegible_of_plain
    refine List.all_iff_forall_prop.mp ?_
    cases d <;> decide
  unfold Cell.ofValue
  split
  · exact hnull
  · split
    · exact hnull
    · apply isLegible_ofWritable

end Statement

end SqlScribe
