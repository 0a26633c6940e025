import SqlScribe.Proofs.Text.Reader
import SqlScribe.Statement.Fragment

/-!
# Reading parts of statements

What the readers of statements share.  `textOf` is the text of some fragments, and it is put
together as the fragments are.  Fixed texts between the names decide how the reading goes on:
a text that begins with one of them begins with no other, unless one of the two begins with the
other.  So parts with separators between them are read up to the text that ends them
(`reads_separatedBy`), and lists of names are (`reads_columnList`).
-/

namespace SqlScribe.Statement

open Text Text.Reader

variable {d : Dialect}

/-- The text of some fragments. -/
def textOf (d : Dialect) (fragments : List Fragment) : List Char :=
  fragments.flatMap (·.write d)

theorem textOf_append (a b : List Fragment) :
  textOf d (a ++ b) = textOf d a ++ textOf d b
  := List.flatMap_append

theorem textOf_code (s : String) :
  textOf d [.code s] = s.toList
  := by
  simp [textOf, Fragment.write]

theorem textOf_code_cons (s : String) (fragments : List Fragment) :
  textOf d (.code s :: fragments) = s.toList ++ textOf d fragments
  := rfl

theorem textOf_identifier (name : String) :
  textOf d [.identifier name] = d.identifierStyle.encode name.toList
  := by
  simp [textOf, Fragment.write]

theorem textOf_separatedBy (separator : String) (parts : List (List Fragment)) :
  textOf d (separatedBy separator parts)
    = separator.toList.intercalate (parts.map (textOf d))
  := by
  induction parts with
  | nil => rfl
  | cons part parts ih =>
    cases parts with
    | nil =>
      rw [separatedBy, List.intercalate_singleton, List.map_singleton, List.intercalate_singleton]
    | cons next parts =>
      rw [separatedBy, List.intercalate_cons_cons, textOf_append, textOf_append, textOf_code,
        ← separatedBy, ih]
      simp only [List.map_cons, List.intercalate_cons_cons]

/-- The text goes on with a fixed text. -/
def StartsWith (s : String) (rest : List Char) : Prop :=
  s.toList <+: rest

/-- A text that begins with one fixed text does not begin with another, unless one of the two
begins with the other. -/
theorem not_prefix_of_startsWith {s ending : String} {rest : List Char}
    (h : StartsWith ending rest) (hs : ¬ s.toList <+: ending.toList)
    (he : ¬ ending.toList <+: s.toList) :
  ¬ s.toList <+: rest
  := by
  intro hprefix
  rcases List.prefix_or_prefix_of_prefix hprefix h with hp | hp
  · exact hs hp
  · exact he hp

/-- A reader that begins with one fixed text fails where another one begins. -/
theorem expect_bind_fails {α : Type} {s start : String} {next : Unit → Reader α} {more : List Char}
    (hs : ¬ s.toList <+: start.toList) (hstart : ¬ start.toList <+: s.toList) (rest : List Char) :
  (expect s >>= next).run (start.toList ++ more ++ rest) = none
  := by
  apply expect_bind_eq_none
  rw [List.append_assoc]
  exact not_prefix_of_startsWith (List.prefix_append _ _) hs hstart

/-- Parts with separators between them are read before a text that ends them. -/
theorem reads_separatedBy {α β : Type} {item : Reader α} {separator ending : String} {xs : List β}
    {value : β → α} {parts : β → List Fragment} {follow : List Char → Prop} (hne : xs ≠ [])
    (hitem : ∀ x ∈ xs, Reads item (value x) (textOf d (parts x)) follow)
    (hbetween : ∀ rest, follow (separator.toList ++ rest))
    (hend : ∀ rest, follow (ending.toList ++ rest))
    (hs : separator ≠ "" ∧ ¬ separator.toList <+: ending.toList
      ∧ ¬ ending.toList <+: separator.toList) :
  Reads (separated item separator) (xs.map value)
    (textOf d (separatedBy separator (xs.map parts))) (StartsWith ending)
  := by
  obtain ⟨hseparator, hse, hes⟩ := hs
  rw [textOf_separatedBy, List.map_map]
  apply reads_separated hne _ hitem hbetween
  · intro rest hrest
    constructor
    · obtain ⟨more, rfl⟩ := hrest
      apply hend
    · exact not_prefix_of_startsWith hrest hse hes
  · intro h
    exact hseparator (String.toList_eq_nil_iff.mp h)

/-- An identifier is followed by anything but its mark. -/
theorem notBefore_identifierMark {c : Char} (h : c ∉ ['"', '\x60']) (rest : List Char) :
  NotBefore d.identifierStyle.mark (c :: rest)
  := by
  rintro e he rfl
  cases he
  apply h
  cases d <;> decide

theorem reads_identifier (name : String) :
  Reads (quoted d.identifierStyle) name (textOf d [.identifier name])
    (NotBefore d.identifierStyle.mark)
  := by
  rw [textOf_identifier]
  apply reads_quoted

theorem reads_columnList {names : List String} (hne : names ≠ []) :
  Reads (separated (quoted d.identifierStyle) ", ") names (textOf d (columnList names))
    (StartsWith ")")
  := by
  have hread : Reads (separated (quoted d.identifierStyle) ", ") (names.map id)
      (textOf d (columnList names)) (StartsWith ")") := by
    apply reads_separatedBy hne (fun name _ => reads_identifier name) _ _ (by decide)
    · intro rest
      exact notBefore_identifierMark (by decide) _
    · intro rest
      exact notBefore_identifierMark (by decide) _
  rwa [List.map_id] at hread

end SqlScribe.Statement
