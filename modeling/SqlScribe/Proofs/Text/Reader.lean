import Mathlib.Tactic.Use
import SqlScribe.Proofs.Text.Quoted
import SqlScribe.Text.Run

/-!
# Readers

A reader takes something off the start of a text, or fails; readers are put together as
`StateT` computations.  `Reads` says that a reader finds a value in a text, and leaves what
follows the text, as long as what follows satisfies a condition: the mark after a quoted text,
for one, must not come twice.  Readers one after the other read texts one after the other if
each text satisfies the condition of the text before it (`Reads.bind`), and a list of items is
read from texts with separators between them (`reads_separated`) or from texts side by side
(`reads_many`).  Besides fixed and quoted texts there are runs of characters, the first of
several keywords, and pieces of text that end where one of some texts begins (`reads_upTo`).
-/

namespace SqlScribe.Text

/-- Something that takes a value off the start of a text. -/
abbrev Reader (α : Type) := StateT (List Char) Option α

namespace Reader

/-- Takes a fixed text off the start of a text. -/
def expect (s : String) : Reader Unit := fun text =>
  if s.toList.isPrefixOf text then some ((), text.drop s.toList.length) else none

/-- Reads a quoted text. -/
def quoted (style : Quoted.Style) : Reader String := fun text =>
  (style.read? text).map fun (s, rest) => (String.ofList s, rest)

/-- Reads items with a separator between them, as many as there are. -/
def separated {α : Type} (item : Reader α) (separator : String) : Reader (List α) := fun text =>
  match item.run text with
  | none => none
  | some (x, rest) =>
    match (expect separator).run rest with
    | none => some ([x], rest)
    | some (_, more) =>
      if more.length < text.length then
        (separated item separator more).map fun (xs, after) => (x :: xs, after)
      else none
termination_by text => text.length

/-- Reads items one after the other, as many as there are. -/
def many {α : Type} (item : Reader α) : Reader (List α) := fun text =>
  match item.run text with
  | none => some ([], text)
  | some (x, more) =>
    if more.length < text.length then
      (many item more).map fun (xs, after) => (x :: xs, after)
    else none
termination_by text => text.length

/-- Reads a fixed text. -/
def exactly (s : String) : Reader String :=
  do expect s; return s

/-- Reads the run of a test. -/
def spanning (p : Char → Bool) : Reader String := fun text =>
  some (String.ofList (splitRun p text).1, (splitRun p text).2)

/-- Reads the first of some keywords that stands there, as what it means. -/
def keyword {α : Type} (meanings : List (String × α)) : Reader α := fun text =>
  (meanings.find? fun p => p.1.toList.isPrefixOf text).map fun p =>
    (p.2, text.drop p.1.toList.length)

/-- One of some texts stands at the start of a text. -/
def AtStop (stops : List String) (text : List Char) : Prop :=
  ∃ stop ∈ stops, stop.toList <+: text

instance (stops : List String) (text : List Char) : Decidable (AtStop stops text) :=
  inferInstanceAs (Decidable (∃ stop ∈ stops, _))

theorem AtStop.mono {stops stops' : List String} {text : List Char} (h : AtStop stops text)
    (hsubset : stops ⊆ stops') :
  AtStop stops' text
  := by
  obtain ⟨stop, hstop, hprefix⟩ := h
  exact ⟨stop, hsubset hstop, hprefix⟩

/-- Splits a text where one of some texts begins. -/
def splitAtStop (stops : List String) : List Char → List Char × List Char
  | [] => ([], [])
  | c :: rest =>
    if AtStop stops (c :: rest) then ([], c :: rest)
    else
      let (s, after) := splitAtStop stops rest
      (c :: s, after)

/-- Reads up to the place where one of some texts begins. -/
def upTo (stops : List String) : Reader String := fun text =>
  some (String.ofList (splitAtStop stops text).1, (splitAtStop stops text).2)

/-- The reader finds a value in a text, as long as the text after it satisfies a condition. -/
def Reads {α : Type} (read : Reader α) (x : α) (s : List Char) (follow : List Char → Prop) :
    Prop :=
  ∀ rest, follow rest → read.run (s ++ rest) = some (x, rest)

/-- What a reader finds in a text, if nothing of the text is left. -/
def whole? {α : Type} (read : Reader α) (text : String) : Option α :=
  match read.run text.toList with
  | some (x, []) => some x
  | _ => none

variable {α β : Type} {read read' : Reader α} {next : α → Reader β} {x : α} {y : β}
  {s s' : List Char} {follow follow' : List Char → Prop}

/-- Anything may follow. -/
def Anything (_ : List Char) : Prop :=
  True

theorem Reads.bind (hread : Reads read x s follow) (hnext : Reads (next x) y s' follow')
    (h : ∀ rest, follow' rest → follow (s' ++ rest)) :
  Reads (read >>= next) y (s ++ s') follow'
  := by
  intro rest hrest
  rw [StateT.run_bind, List.append_assoc, hread _ (h rest hrest)]
  exact hnext rest hrest

/-- The last reader of several is followed by nothing but a result. -/
theorem Reads.bind_pure (hread : Reads read x s follow) (f : α → β) :
  Reads (do return f (← read)) (f x) s follow
  := by
  intro rest hrest
  rw [StateT.run_bind, hread rest hrest]
  rfl

theorem Reads.mono (hread : Reads read x s follow) (h : ∀ rest, follow' rest → follow rest) :
  Reads read x s follow'
  := by
  intro rest hrest
  exact hread rest (h rest hrest)

/-- What is read from a text and what is left of it do not depend on how the text was put
together. -/
theorem Reads.unique {x' : α} {rest rest' : List Char} (hread : Reads read x s follow)
    (hread' : Reads read x' s' follow') (hrest : follow rest) (hrest' : follow' rest')
    (h : s ++ rest = s' ++ rest') :
  x = x' ∧ rest = rest'
  := by
  have hboth := hread' rest' hrest'
  rw [← h, hread rest hrest] at hboth
  simpa using hboth

/-- A text by itself is read as a whole. -/
theorem Reads.whole? (hread : Reads read x s follow) (hend : follow []) :
  whole? read (String.ofList s) = some x
  := by
  have h := hread [] hend
  rw [List.append_nil] at h
  rw [Reader.whole?, String.toList_ofList, h]

theorem Reads.orElse_left (hread : Reads read x s follow) :
  Reads (read <|> read') x s follow
  := by
  intro rest hrest
  have h := hread rest hrest
  change (read.run (s ++ rest) <|> read'.run (s ++ rest)) = _
  rw [h]
  rfl

theorem Reads.orElse_right (hread' : Reads read' x s follow)
    (h : ∀ rest, follow rest → read.run (s ++ rest) = none) :
  Reads (read <|> read') x s follow
  := by
  intro rest hrest
  change (read.run (s ++ rest) <|> read'.run (s ++ rest)) = _
  rw [h rest hrest]
  exact hread' rest hrest

theorem reads_expect (s : String) :
  Reads (expect s) () s.toList Anything
  := by
  intro rest _
  have hprefix : s.toList.isPrefixOf (s.toList ++ rest) = true :=
    List.isPrefixOf_iff_prefix.mpr (List.prefix_append _ _)
  change (if _ then _ else _) = _
  rw [if_pos hprefix, List.drop_left]

theorem expect_eq_none {s : String} {text : List Char} (h : ¬ s.toList <+: text) :
  (expect s).run text = none
  := by
  change (if _ then _ else _) = _
  rw [if_neg]
  intro hprefix
  exact h (List.isPrefixOf_iff_prefix.mp hprefix)

/-- Several readers fail if the first of them does. -/
theorem bind_eq_none {text : List Char} (h : read.run text = none) :
  (read >>= next).run text = none
  := by
  rw [StateT.run_bind, h]
  rfl

/-- A reader that begins with a fixed text fails on a text that begins otherwise. -/
theorem expect_bind_eq_none {s : String} {next : Unit → Reader β} {text : List Char}
    (h : ¬ s.toList <+: text) :
  (expect s >>= next).run text = none
  := bind_eq_none (expect_eq_none h)

/-- What follows does not begin with a character. -/
def NotBefore (c : Char) (rest : List Char) : Prop :=
  ∀ d ∈ rest.head?, d ≠ c

theorem reads_quoted (style : Quoted.Style) (text : String) :
  Reads (quoted style) text (style.encode text.toList) (NotBefore style.mark)
  := by
  intro rest hrest
  change Option.map _ _ = _
  rw [Quoted.Style.read?_encode_append _ hrest]
  simp

/-- A reader that begins with a quoted text fails on a text that does not begin with a mark. -/
theorem quoted_bind_eq_none {style : Quoted.Style} {next : String → Reader β} {text : List Char}
    (h : NotBefore style.mark text) :
  (quoted style >>= next).run text = none
  := by
  apply bind_eq_none
  cases text with
  | nil => rfl
  | cons c rest =>
    change Option.map _ (style.read? (c :: rest)) = none
    rw [Quoted.Style.read?, if_neg (by simpa using h c rfl), Option.map_none]

/-- Items with separators between them are read if each item is read before a separator and
before what follows the last one, which does not begin with a separator. -/
theorem reads_separated {item : Reader α} {separator : String} {xs : List β} {value : β → α}
    {write : β → List Char} (hne : xs ≠ []) (hseparator : separator.toList ≠ [])
    (hitem : ∀ x ∈ xs, Reads item (value x) (write x) follow)
    (hbetween : ∀ rest, follow (separator.toList ++ rest))
    (hend : ∀ rest, follow' rest → follow rest ∧ ¬ separator.toList <+: rest) :
  Reads (separated item separator) (xs.map value)
    (separator.toList.intercalate (xs.map write)) follow'
  := by
  induction xs with
  | nil => contradiction
  | cons x xs ih =>
    have hx := hitem x List.mem_cons_self
    intro rest hrest
    obtain ⟨hfollow, hstop⟩ := hend rest hrest
    cases xs with
    | nil =>
      rw [List.map_singleton, List.intercalate_singleton]
      change separated item separator _ = _
      rw [separated, hx rest hfollow]
      dsimp only
      rw [expect_eq_none hstop]
      rfl
    | cons y xs =>
      have hxs : ∀ z ∈ y :: xs, Reads item (value z) (write z) follow := by
        intro z hz
        exact hitem z (List.mem_cons_of_mem x hz)
      have hmore := ih (by simp) hxs rest hrest
      rw [List.map_cons, List.map_cons, List.intercalate_cons_cons, ← List.map_cons,
        List.append_assoc, List.append_assoc]
      change separated item separator _ = _
      rw [separated, hx _ (hbetween _)]
      dsimp only
      rw [reads_expect separator _ trivial]
      dsimp only
      have hlength : 0 < separator.toList.length := List.length_pos_iff.mpr hseparator
      rw [if_pos]
      · change Option.map _ ((separated item separator).run _) = _
        rw [hmore]
        rfl
      · simp only [List.length_append]
        omega

/-- Items side by side are read if each item is read before any other and before what follows the
last one, where no item can be read. -/
theorem reads_many {item : Reader α} {xs : List β} {value : β → α} {write : β → List Char}
    (hne : ∀ x ∈ xs, write x ≠ []) (hitem : ∀ x ∈ xs, Reads item (value x) (write x) follow)
    (hbetween : ∀ x ∈ xs, ∀ rest, follow (write x ++ rest))
    (hend : ∀ rest, follow' rest → follow rest ∧ item.run rest = none) :
  Reads (many item) (xs.map value) (xs.flatMap write) follow'
  := by
  induction xs with
  | nil =>
    intro rest hrest
    change many item rest = _
    rw [many, (hend rest hrest).2]
    rfl
  | cons x xs ih =>
    have hmore := ih (fun y hy => hne y (List.mem_cons_of_mem x hy))
      (fun y hy => hitem y (List.mem_cons_of_mem x hy))
      (fun y hy => hbetween y (List.mem_cons_of_mem x hy))
    intro rest hrest
    have hfollow : follow (xs.flatMap write ++ rest) := by
      cases xs with
      | nil => exact (hend rest hrest).1
      | cons y xs =>
        rw [List.flatMap_cons, List.append_assoc]
        exact hbetween y (by simp) _
    have hlength : 0 < (write x).length := List.length_pos_iff.mpr (hne x List.mem_cons_self)
    rw [List.flatMap_cons, List.append_assoc]
    change many item _ = _
    rw [many, hitem x List.mem_cons_self _ hfollow]
    dsimp only
    rw [if_pos]
    · change Option.map _ ((many item).run _) = _
      rw [hmore rest hrest]
      rfl
    · simp only [List.length_append]
      omega

theorem reads_exactly (s : String) :
  Reads (exactly s) s s.toList Anything
  := (reads_expect s).bind_pure fun _ => s

theorem reads_spanning {p : Char → Bool} {s : String} (h : ∀ c ∈ s.toList, p c = true) :
  Reads (spanning p) s s.toList (fun rest => ∀ c ∈ rest.head?, p c = false)
  := by
  intro rest hrest
  change some _ = _
  rw [splitRun_eq h hrest, String.ofList_toList]

/-- A keyword is read as what it means, if none of those before it stands there. -/
theorem reads_keyword {meanings before after : List (String × α)} {s : String}
    (h : meanings = before ++ (s, x) :: after)
    (hbefore : ∀ p ∈ before, ∀ rest, follow rest → ¬ p.1.toList <+: s.toList ++ rest) :
  Reads (keyword meanings) x s.toList follow
  := by
  intro rest hrest
  have hfirst : meanings.find? (fun p => p.1.toList.isPrefixOf (s.toList ++ rest))
      = some (s, x) := by
    rw [List.find?_eq_some_iff_append]
    constructor
    · exact List.isPrefixOf_iff_prefix.mpr (List.prefix_append _ _)
    · use before, after, h
      intro p hp
      rw [Bool.not_eq_true', ← Bool.not_eq_true, List.isPrefixOf_iff_prefix]
      exact hbefore p hp rest hrest
  change Option.map _ _ = _
  rw [hfirst, Option.map_some, List.drop_left]

theorem keyword_eq_none {meanings : List (String × α)} {text : List Char}
    (h : ∀ p ∈ meanings, ¬ p.1.toList <+: text) :
  (keyword meanings).run text = none
  := by
  have hnone : meanings.find? (fun p => p.1.toList.isPrefixOf text) = none := by
    rw [List.find?_eq_none]
    intro p hp
    rw [List.isPrefixOf_iff_prefix]
    exact h p hp
  change Option.map _ _ = _
  rw [hnone, Option.map_none]

/-! ### Pieces of text up to a stop -/

variable {stops : List String}

/-- No stop begins within a piece of text, given what follows it. -/
def Lacks (stops : List String) : List Char → List Char → Prop
  | [], _ => True
  | c :: s, rest => ¬ AtStop stops (c :: (s ++ rest)) ∧ Lacks stops s rest

theorem Lacks.append {a b rest : List Char} (ha : Lacks stops a (b ++ rest))
    (hb : Lacks stops b rest) :
  Lacks stops (a ++ b) rest
  := by
  induction a with
  | nil => exact hb
  | cons c a ih =>
    obtain ⟨hc, ha⟩ := ha
    rw [List.cons_append]
    constructor
    · rwa [List.append_assoc]
    · exact ih ha

/-- A text does not begin with a character with which none of the stops begins. -/
theorem notBefore_of_atStop {c : Char} {rest : List Char} (h : AtStop stops rest)
    (hc : ∀ stop ∈ stops, stop.toList.head?.any (· ≠ c) = true) :
  NotBefore c rest
  := by
  obtain ⟨stop, hstop, more, rfl⟩ := h
  obtain ⟨d, hd, hne⟩ := (Option.any_eq_true _ _).mp (hc stop hstop)
  intro e he
  rw [List.head?_append, hd] at he
  cases he
  exact of_decide_eq_true hne

/-- No stop begins in a piece of text without the first characters of stops. -/
theorem lacks_of_forall {s : List Char} (rest : List Char)
    (h : ∀ stop ∈ stops, stop.toList.head?.any (· ∉ s) = true) :
  Lacks stops s rest
  := by
  induction s with
  | nil => trivial
  | cons e s ih =>
    constructor
    · intro hstop
      apply notBefore_of_atStop hstop _ e rfl rfl
      intro stop hmem
      obtain ⟨c, hc, hs⟩ := (Option.any_eq_true _ _).mp (h stop hmem)
      rw [hc, Option.any_some, decide_eq_true_iff]
      exact List.ne_of_not_mem_cons (of_decide_eq_true hs)
    · apply ih
      intro stop hmem
      obtain ⟨c, hc, hs⟩ := (Option.any_eq_true _ _).mp (h stop hmem)
      rw [hc, Option.any_some, decide_eq_true_iff]
      exact List.not_mem_of_not_mem_cons (of_decide_eq_true hs)

/-- No stop begins in a piece of text if no end of it begins with a stop, or the other way
round. -/
theorem lacks_of_drop {s : List Char} (rest : List Char)
    (h : ∀ n < s.length, ∀ stop ∈ stops,
      ¬ stop.toList <+: s.drop n ∧ ¬ s.drop n <+: stop.toList) :
  Lacks stops s rest
  := by
  induction s with
  | nil => trivial
  | cons c s ih =>
    constructor
    · rintro ⟨stop, hstop, hprefix⟩
      obtain ⟨hs, hu⟩ := h 0 (by simp) stop hstop
      rcases List.prefix_or_prefix_of_prefix hprefix
        (List.prefix_append (c :: s) rest) with hp | hp
      · exact hs hp
      · exact hu hp
    · apply ih
      intro n hn
      exact h (n + 1) (by simpa using hn)

/-- No stop begins one character before one that is the second of no stop. -/
theorem not_atStop_of_second {c e : Char} (rest : List Char)
    (h : ∀ stop ∈ stops, stop.toList[1]?.any (· ≠ e) = true) :
  ¬ AtStop stops (c :: e :: rest)
  := by
  rintro ⟨stop, hstop, hprefix⟩
  obtain ⟨d, hd, hne⟩ := (Option.any_eq_true _ _).mp (h stop hstop)
  have he := List.prefix_iff_getElem?.mp hprefix 1 (List.getElem?_eq_some_iff.mp hd).1
  rw [← List.getElem?_eq_getElem, hd] at he
  cases he
  exact of_decide_eq_true hne rfl

/-- A piece of text in which no stop begins is read before a stop. -/
theorem reads_upTo (s : String) :
  Reads (upTo stops) s s.toList (fun rest => AtStop stops rest ∧ Lacks stops s.toList rest)
  := by
  have hsplit : ∀ {t rest : List Char}, AtStop stops rest → Lacks stops t rest →
      splitAtStop stops (t ++ rest) = (t, rest) := by
    intro t rest hrest ht
    induction t with
    | nil =>
      cases rest with
      | nil => rfl
      | cons c rest => rw [List.nil_append, splitAtStop, if_pos hrest]
    | cons c t ih =>
      rw [List.cons_append, splitAtStop, if_neg ht.1, ih ht.2]
  intro rest hrest
  change some _ = _
  rw [hsplit hrest.1 hrest.2, String.ofList_toList]

end Reader

end SqlScribe.Text
