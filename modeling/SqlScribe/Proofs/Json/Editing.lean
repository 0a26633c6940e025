import SqlScribe.Proofs.Json.Records

/-!
# Members of documents that are set

A member of a record is set by changing the text of its document (`setMember`).  Where the record
is an object the value of the key is replaced, or the member is put after the others; where it is
an array the value at the place of the member is replaced, or put after the others.  All else stays
as it is: the blank characters, the order of the members and the members without a meaning.

The text is passed over piece by piece, so on a text in pieces the setting can be followed
from one piece to the next (`setInMembers_of_member`, `setAt_of_skipped`).
-/

namespace SqlScribe.Json

/-! ### Setting -/

/-- The text before what is left of it. -/
def before (text rest : List Char) : List Char :=
  text.take (text.length - rest.length)

/-- Sets the value of a key in the members of an object, of which the first one is next. -/
def setInMembers (key : String) (value : List Char) :
    List Char → List Char → Except Fault (List Char)
  | [], _ => .error .truncated
  | _ :: bound, text =>
    match skipSpace text with
    | '"' :: keyText => do
      let (found, afterKey) ← readText keyText
      let valueText ← readColon afterKey
      let rest ← skipValue valueText
      if found = key then .ok (before text valueText ++ value ++ rest)
      else
        match skipSpace rest with
        | '\x7d' :: _ => .ok (before text rest ++ ',' :: (memberText key value ++ rest))
        | ',' :: more => (setInMembers key value bound more).map (before text more ++ ·)
        | other => .error (unexpected other)
    | other => .error (unexpected other)

/-- Sets the value of a key in an object, of which the opening brace has been taken off. -/
def setInObject (key : String) (value text : List Char) : Except Fault (List Char) :=
  match skipSpace text with
  | '\x7d' :: _ => .ok (memberText key value ++ text)
  | _ => setInMembers key value text text

/-- Sets the value at a place in an array, of which a value is next. -/
def setAt (value : List Char) : Nat → List Char → Except Fault (List Char)
  | 0, text => (skipValue text).map (value ++ ·)
  | place + 1, text => do
    let rest ← skipValue text
    match skipSpace rest with
    | ']' :: _ =>
      if place = 0 then .ok (before text rest ++ ',' :: (value ++ rest)) else .error .malformed
    | ',' :: more => (setAt value place more).map (before text more ++ ·)
    | other => .error (unexpected other)

/-- Sets a member, which has a key in an object and a place in an array, to a value. -/
def setMember (key : String) (place : Nat) (value : Json) (text : String) :
    Except Fault String :=
  match skipSpace text.toList with
  | '\x7b' :: rest =>
    (setInObject key value.compact.toList rest).map fun edited =>
      String.ofList (before text.toList rest ++ edited)
  | '[' :: rest =>
    (setAt value.compact.toList place rest).map fun edited =>
      String.ofList (before text.toList rest ++ edited)
  | other => .error (unexpected other)

/-! ### Texts in pieces -/

theorem before_append (s rest : List Char) :
  before (s ++ rest) rest = s
  := by
  simp [before]

theorem before_comma (s b rest : List Char) :
  before (s ++ (b ++ ',' :: rest)) rest = s ++ (b ++ [','])
  := by
  rw [← before_append (s ++ (b ++ [','])) rest]
  simp

variable {key k : String} {value p v rest : List Char}

/-- Setting a member takes the key and passes over the value. -/
theorem setInMembers_of_member (hp : Member (IsString · k) v p) (hv : Skipped v) (hrest : Ends rest)
    (e : Char) (bound : List Char) :
  setInMembers key value (e :: bound) (p ++ rest) =
    if k = key then .ok (before (p ++ rest) (v ++ rest) ++ value ++ rest)
    else
      match skipSpace rest with
      | '\x7d' :: _ => .ok (p ++ ',' :: (memberText key value ++ rest))
      | ',' :: more => (setInMembers key value bound more).map (before (p ++ rest) more ++ ·)
      | other => .error (unexpected other)
  := by
  obtain @⟨b, k', c, hb, hk, hc⟩ := hp
  rw [setInMembers]
  have hspace : skipSpace (b ++ '"' :: (k' ++ (c ++ ':' :: v)) ++ rest)
      = '"' :: (k' ++ (c ++ ':' :: (v ++ rest))) := by
    simp [skipSpace_append_cons hb (show isSpace '"' = false by decide)]
  have hskip : skipValue (v ++ rest) = .ok rest := hv.skipValue hrest
  simp only [hspace, hk.reads _, readColon_append hc, hskip, bind, Except.bind, before_append]

/-- A member of the key gets the value. -/
theorem exists_setInMembers_of_key (hp : Member (IsString · key) v p) (hv : Skipped v)
    (value : List Char) :
  ∃ p', Member (IsString · key) value p' ∧ ∀ (e : Char) (bound rest : List Char), Ends rest →
    setInMembers key value (e :: bound) (p ++ rest) = .ok (p' ++ rest)
  := by
  obtain @⟨b, k', c, hb, hk, hc⟩ := hp
  use b ++ '"' :: (k' ++ (c ++ ':' :: value)), .mk hb hk hc
  intro e bound rest hrest
  rw [setInMembers_of_member (.mk hb hk hc) hv hrest, if_pos rfl]
  have hsplit : b ++ '"' :: (k' ++ (c ++ ':' :: v)) ++ rest
      = b ++ '"' :: (k' ++ (c ++ [':'])) ++ (v ++ rest) := by simp
  rw [hsplit, before_append]
  simp

/-- After the last member the new one is put. -/
theorem setInMembers_close (hp : Member (IsString · k) v p) (hv : Skipped v) (hk : k ≠ key)
    {b : List Char} (hb : AllSpace b) (e : Char) (bound rest : List Char) :
  setInMembers key value (e :: bound) (p ++ (b ++ '\x7d' :: rest))
    = .ok (p ++ ',' :: (memberText key value ++ (b ++ '\x7d' :: rest)))
  := by
  rw [setInMembers_of_member hp hv (ends_append_cons hb (Or.inr (Or.inr rfl)) rest), if_neg hk]
  simp [skipSpace_append_cons hb (show isSpace '\x7d' = false by decide)]

/-- Between other members the setting goes on with the next one. -/
theorem setInMembers_comma (hp : Member (IsString · k) v p) (hv : Skipped v) (hk : k ≠ key)
    {b : List Char} (hb : AllSpace b) (e : Char) (bound more : List Char) :
  setInMembers key value (e :: bound) (p ++ (b ++ ',' :: more))
    = (setInMembers key value bound more).map fun edited => p ++ (b ++ ',' :: edited)
  := by
  rw [setInMembers_of_member hp hv (ends_append_cons hb (Or.inl rfl) more), if_neg hk,
    skipSpace_append_cons hb (by decide)]
  simp [before_comma]

theorem setAt_zero (hv : Skipped v) (hrest : Ends rest) :
  setAt value 0 (v ++ rest) = .ok (value ++ rest)
  := by
  rw [setAt, hv.skipValue hrest]
  rfl

/-- After the last value the new one is put. -/
theorem setAt_close (hv : Skipped v) {b : List Char} (hb : AllSpace b) (rest : List Char) :
  setAt value 1 (v ++ (b ++ ']' :: rest)) = .ok (v ++ ',' :: (value ++ (b ++ ']' :: rest)))
  := by
  have hskip := hv.skipValue (ends_append_cons hb (Or.inr (Or.inl rfl)) rest)
  simp [setAt, hskip, bind, Except.bind, before_append,
    skipSpace_append_cons hb (show isSpace ']' = false by decide)]

/-- Between other values the setting goes on with the next one. -/
theorem setAt_comma (hv : Skipped v) {b : List Char} (hb : AllSpace b) (place : Nat)
    (more : List Char) :
  setAt value (place + 1) (v ++ (b ++ ',' :: more))
    = (setAt value place more).map fun edited => v ++ (b ++ ',' :: edited)
  := by
  have hskip := hv.skipValue (ends_append_cons hb (Or.inl rfl) more)
  simp [setAt, hskip, bind, Except.bind, before_comma,
    skipSpace_append_cons hb (show isSpace ',' = false by decide)]

theorem skipSpace_document {a : List Char} (ha : AllSpace a) {e : Char} (he : isSpace e = false)
    (content : List Char) :
  skipSpace (a ++ e :: content) = e :: content ∧ before (a ++ e :: content) content = a ++ [e]
  := by
  have hbefore := before_append (a ++ [e]) content
  rw [List.append_assoc, List.singleton_append] at hbefore
  exact ⟨skipSpace_append_cons ha he content, hbefore⟩

variable {a content edited : List Char} {place : Nat} {x : Json}

/-- In the text of an object the member of the key is set. -/
theorem setMember_of_setInObject (ha : AllSpace a)
    (h : setInObject key x.compact.toList content = .ok edited) :
  setMember key place x (String.ofList (a ++ '\x7b' :: content))
    = .ok (String.ofList (a ++ '\x7b' :: edited))
  := by
  obtain ⟨hskip, hbefore⟩ := skipSpace_document ha (show isSpace '\x7b' = false by decide) content
  simp only [setMember, String.toList_ofList, hskip, h, Except.map, hbefore]
  simp

/-- In the text of an array the value at the place of the member is set. -/
theorem setMember_of_setAt (ha : AllSpace a)
    (h : setAt x.compact.toList place content = .ok edited) :
  setMember key place x (String.ofList (a ++ '[' :: content))
    = .ok (String.ofList (a ++ '[' :: edited))
  := by
  obtain ⟨hskip, hbefore⟩ := skipSpace_document ha (show isSpace '[' = false by decide) content
  simp only [setMember, String.toList_ofList, hskip, h, Except.map, hbefore]
  simp

end SqlScribe.Json
