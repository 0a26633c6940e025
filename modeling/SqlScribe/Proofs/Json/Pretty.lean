import SqlScribe.Proofs.Json.Records

/-!
# Documents on several lines

Documents with every element and every member on a line of its own are read like documents without
blank characters: a new line begins with blank characters, and these can stand before every value
and at the end of every sequence.  So an array is read as the list of its elements
(`isValue_pretty_array`) and an object as the draft to which its members lead
(`holds_pretty_object`), whatever the depth at which they are nested.
-/

namespace SqlScribe.Json

/-! ### Natural numbers -/

/-- Reads a natural number. -/
def readNatural : Reader Nat := fun text => do
  let (n, rest) ← readNumeral .truncated (skipSpace text)
  match n with
  | ⟨false, digits, none, none⟩ => return (Number.ofDigits digits, rest)
  | _ => .error .malformed

theorem ignoresSpace_natural :
  IgnoresSpace readNatural
  := by
  intro b text hb
  simp only [readNatural, skipSpace_append hb]

theorem isValue_pretty_natural (depth n : Nat) :
  IsValue readNatural ((natural n).pretty depth).toList n
  := by
  rw [pretty, Nat.toString_eq_ofList_toDigits, String.toList_ofList]
  have hdigits := Number.isDigits_toDigits n
  obtain ⟨c, digits, hcons⟩ := List.exists_cons_of_ne_nil hdigits.ne_nil
  have hc : c.isDigit = true := hdigits.all c (by rw [hcons]; exact List.mem_cons_self)
  constructor
  · intro rest hrest
    have hspace : skipSpace (Nat.toDigits 10 n ++ rest) = Nat.toDigits 10 n ++ rest := by
      rw [hcons, List.cons_append]
      apply skipSpace_cons (ne_of_number (Or.inr hc)).1
    simp only [readNatural, hspace, readNumeral_natural _ n rest hrest, bind, Except.bind,
      Number.ofDigits_toDigits]
    rfl
  · apply skipped_number
    · rw [hcons]
      exact ⟨c, rfl, Or.inr hc⟩
    · intro rest hrest
      rw [skipNumber, readNumeral_natural _ n rest hrest]
      rfl

/-! ### Strings -/

theorem isValue_pretty_string (depth : Nat) (x : String) :
  IsValue readString ((string x).pretty depth).toList x
  := by
  obtain ⟨k, hk, hx⟩ := isString_written x
  rw [pretty, hk]
  apply isValue_string hx

/-! ### Lines -/

/-- A line break and the start of the line after it. -/
def newLine (depth : Nat) : List Char :=
  '\n' :: (indentation depth).toList

theorem allSpace_newLine (depth : Nat) :
  AllSpace (newLine depth)
  := by
  intro c hc
  rw [newLine, indentation, String.toList_ofList, List.mem_cons, List.mem_replicate] at hc
  rcases hc with rfl | ⟨-, rfl⟩ <;> decide

/-- The elements of an array stand on new lines, with commas between them. -/
theorem newLine_prettyElements (depth : Nat) {es : List Json} (hne : es ≠ []) :
  '\n' :: (prettyElements depth es).toList
    = [','].intercalate ((es.map fun e => (e.pretty depth).toList).map (newLine depth ++ ·))
  := by
  induction es with
  | nil => contradiction
  | cons e es ih =>
    cases es with
    | nil => simp [prettyElements, newLine]
    | cons e' es =>
      have hmore := ih (by simp)
      simp only [List.map_cons] at hmore ⊢
      rw [List.intercalate_cons_cons, ← hmore, prettyElements]
      · simp [newLine]
      · simp

theorem toList_pretty_array (depth : Nat) {es : List Json} (hne : es ≠ []) :
  ((array es).pretty depth).toList
    = '[' :: ([','].intercalate ((es.map fun e => (e.pretty (depth + 1)).toList).map
        (newLine (depth + 1) ++ ·)) ++ (newLine depth ++ [']']))
  := by
  rw [← newLine_prettyElements (depth + 1) hne, pretty]
  · simp [newLine]
  · exact hne

/-- A member on a line of its own, from its key on. -/
def prettyMember (depth : Nat) (m : String × Json) : List Char :=
  (writeText m.1).toList ++ ':' :: ' ' :: (m.2.pretty depth).toList

/-- The members of an object stand on new lines, with commas between them. -/
theorem newLine_prettyMembers (depth : Nat) {ms : List (String × Json)} (hne : ms ≠ []) :
  '\n' :: (prettyMembers depth ms).toList
    = [','].intercalate ((ms.map (prettyMember depth)).map (newLine depth ++ ·))
  := by
  induction ms with
  | nil => contradiction
  | cons m ms ih =>
    cases ms with
    | nil => simp [prettyMembers, newLine, prettyMember]
    | cons m' ms =>
      have hmore := ih (by simp)
      simp only [List.map_cons] at hmore ⊢
      rw [List.intercalate_cons_cons, ← hmore, prettyMembers]
      · simp [newLine, prettyMember]
      · simp

theorem toList_pretty_object (depth : Nat) {ms : List (String × Json)} (hne : ms ≠ []) :
  ((object ms).pretty depth).toList
    = '\x7b' :: ([','].intercalate ((ms.map (prettyMember (depth + 1))).map
        (newLine (depth + 1) ++ ·)) ++ (newLine depth ++ ['\x7d']))
  := by
  rw [← newLine_prettyMembers (depth + 1) hne, pretty]
  · simp [newLine]
  · exact hne

/-! ### Arrays -/

variable {α M D : Type} {read : Reader α} {write : α → Json} {depth : Nat}

theorem Element.append {b p : List Char} {values values' : List α} (hb : AllSpace b)
    (hspace : IgnoresSpace read) (h : Element read values p values') :
  Element read values (b ++ p) values'
  := by
  obtain ⟨x, hx, hp⟩ := h
  exact ⟨x, hx, hp.append hb hspace⟩

/-- An array on several lines is read as the list of its elements. -/
theorem isValue_pretty_array (depth : Nat) (xs : List α) (hspace : IgnoresSpace read)
    (h : ∀ x ∈ xs, IsValue read ((write x).pretty (depth + 1)).toList x)
    (ho : ∀ x ∈ xs, Opens ']' ((write x).pretty (depth + 1)).toList) :
  IsValue (readList read) ((array (xs.map write)).pretty depth).toList xs
  := by
  cases xs with
  | nil =>
    have hvalue := isValue_list (Enclosed.empty (R := Element read) allSpace_nil)
    rw [List.map_nil, pretty]
    exact hvalue
  | cons x xs =>
    have hopens : ∀ p ∈ (x :: xs).map fun x => ((write x).pretty (depth + 1)).toList,
        Opens ']' p := by
      intro p hp
      obtain ⟨y, hy, rfl⟩ := List.mem_map.mp hp
      exact ho y hy
    have hcontent := (chain_element (x :: xs) [] h).enclosed_spaced ']' (by simp) hopens
      (allSpace_newLine (depth + 1)) (allSpace_newLine depth)
      (fun _ _ _ => Element.append (allSpace_newLine _) hspace)
    have hvalue := isValue_list hcontent
    rw [List.append_nil, List.reverse_reverse] at hvalue
    rw [toList_pretty_array depth (by simp)]
    simpa only [List.map_map, Function.comp_def] using hvalue

/-! ### Objects -/

variable {format : Format M D α} {draft draft' : D} {key : String} {e : Json}
  {ms : List (String × Json)}

/-- A member on a line of its own leads to the next draft. -/
theorem piece_prettyMember
    (h : format.Entry draft key (' ' :: (e.pretty depth).toList) draft') :
  format.Piece draft (prettyMember depth (key, e)) draft'
  := ⟨key, _, member_memberText key _, h⟩

/-- An object on several lines holds the draft to which its members lead. -/
theorem holds_pretty_object (depth : Nat) (hne : ms ≠ [])
    (h : Chain format.Piece format.empty (ms.map (prettyMember (depth + 1))) draft) :
  format.Holds ((object ms).pretty depth).toList draft
  := by
  have hopens : ∀ p ∈ ms.map (prettyMember (depth + 1)), Opens '\x7d' p := by
    intro p hp
    obtain ⟨m, -, rfl⟩ := List.mem_map.mp hp
    rw [prettyMember, writeText, String.toList_ofList]
    exact ⟨_, _, rfl, by decide, by decide⟩
  rw [toList_pretty_object depth hne]
  apply Format.Holds.object
  apply h.enclosed_spaced '\x7d' (by simpa using hne) hopens (allSpace_newLine (depth + 1))
    (allSpace_newLine depth)
  intro draft p draft' hp
  exact hp.append (allSpace_newLine (depth + 1))

end SqlScribe.Json
