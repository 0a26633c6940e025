import SqlScribe.Json.Printer
import SqlScribe.Json.Text
import SqlScribe.Proofs.Json.Reading

/-!
# Strings of JSON that are read

What reading takes off a text when it reads a string.  `IsString s x` says that the text `s`,
which begins after the opening quote, is the string `x` through its closing quote: it is read as `x`
whatever comes after it, and it can be skipped as well.  What has been read as a string is
such a text (`isString_of_readText`), and so is what is written for a string
(`isString_written`).

The two readers take different steps, since a surrogate pair is one character for the one and
two for the other; so a text is divided into pieces by the characters that are read, and skipping
takes one or two steps for each piece.
-/

namespace SqlScribe.Json

/-! ### Characters -/

/-- A piece of text is skipped as one or two characters of a string. -/
def Skips (s : List Char) : Prop :=
  (∃ c, s ≠ [] ∧ Reads (readCharacter false) s (some c))
    ∨ ∃ a b c d, s = a ++ b ∧ a ≠ [] ∧ b ≠ [] ∧ Reads (readCharacter false) a (some c)
      ∧ Reads (readCharacter false) b (some d)

/-- A piece of text is read as one character of a string. -/
structure Spells (s : List Char) (c : Char) : Prop where
  /-- The piece is not empty. -/
  ne_nil : s ≠ []
  /-- It is read as the character. -/
  reads : Reads (readCharacter true) s (some c)
  /-- It can be skipped. -/
  skips : Skips s

/-- A piece that both readers take off as one character spells it. -/
theorem spells_of_reads {s : List Char} {c : Char} (hs : s ≠ [])
    (h : ∀ paired, Reads (readCharacter paired) s (some c)) :
  Spells s c
  where
  ne_nil := hs
  reads := h true
  skips := by
    left
    use c, hs, h false

theorem reads_of_unitAt? {text rest : List Char} {unit : Nat}
    (h : unitAt? text = some (unit, rest)) :
  ∃ digits, text = digits ++ rest ∧ Reads readUnit digits unit
  := by
  match text, h with
  | a :: b :: c :: d :: tail, h =>
    simp only [unitAt?, Option.bind_eq_bind, Option.bind_eq_some_iff, Option.pure_def,
      Option.some.injEq, Prod.mk.injEq] at h
    obtain ⟨va, ha, vb, hb, vc, hc, vd, hd, rfl, rfl⟩ := h
    use [a, b, c, d], rfl
    intro rest'
    simp [readUnit, unitAt?, ha, hb, hc, hd]

theorem reads_of_readUnit {text rest : List Char} {unit : Nat}
    (h : readUnit text = .ok (unit, rest)) :
  ∃ digits, text = digits ++ rest ∧ Reads readUnit digits unit
  := by
  unfold readUnit at h
  split at h
  · next found hfound =>
    cases h
    apply reads_of_unitAt? hfound
  · contradiction

/-- The second half of a surrogate pair is an escape by number. -/
theorem exists_of_readTrailing {leading : Nat} {text rest : List Char} {c : Char}
    (h : readTrailing leading text = .ok (c, rest)) :
  ∃ digits unit, text = '\\' :: 'u' :: (digits ++ rest) ∧ Reads readUnit digits unit
    ∧ isTrailing unit = true ∧ c = pairCharacter leading unit
  := by
  by_cases hu : ∃ more, text = '\\' :: 'u' :: more
  · obtain ⟨more, rfl⟩ := hu
    rw [readTrailing, bind_eq_ok_iff] at h
    obtain ⟨⟨unit, after⟩, hunit, h⟩ := h
    obtain ⟨digits, rfl, hdigits⟩ := reads_of_readUnit hunit
    dsimp only at h
    split at h
    · next htrailing =>
      rw [Except.ok.injEq, Prod.mk.injEq] at h
      exact ⟨digits, unit, by rw [h.2], hdigits, htrailing, h.1.symm⟩
    · contradiction
  · rw [readTrailing.eq_2] at h
    · cases h
    · intro more hm
      apply hu ⟨more, hm⟩

variable {digits digits' : List Char} {unit unit' : Nat}

theorem readCharacter_number (paired : Bool) (text : List Char) :
  readCharacter paired ('\\' :: 'u' :: text)
    = (readNumberEscape paired text).map fun p => (some p.1, p.2)
  := rfl

theorem reads_number_unpaired (h : Reads readUnit digits unit) :
  Reads (readCharacter false) ('\\' :: 'u' :: digits) (some (Char.ofNat unit))
  := by
  intro rest
  rw [List.cons_append, List.cons_append, readCharacter_number, readNumberEscape, h rest]
  rfl

/-- An escape by number outside surrogate pairs spells the character of its number. -/
theorem spells_number (h : Reads readUnit digits unit) (ht : isTrailing unit = false)
    (hl : isLeading unit = false) :
  Spells ('\\' :: 'u' :: digits) (Char.ofNat unit)
  := by
  apply spells_of_reads (by simp)
  intro paired
  cases paired with
  | false => apply reads_number_unpaired h
  | true =>
    intro rest
    rw [List.cons_append, List.cons_append, readCharacter_number, readNumberEscape, h rest]
    simp [bind, Except.bind, Except.map, ht, hl]

/-- A surrogate pair spells one character, and it is skipped as two. -/
theorem spells_pair (h : Reads readUnit digits unit) (ht : isTrailing unit = false)
    (hl : isLeading unit = true) (h' : Reads readUnit digits' unit')
    (ht' : isTrailing unit' = true) :
  Spells ('\\' :: 'u' :: (digits ++ '\\' :: 'u' :: digits')) (pairCharacter unit unit')
  where
  ne_nil := by simp
  reads := by
    intro rest
    simp only [List.cons_append, List.append_assoc]
    rw [readCharacter_number, readNumberEscape, h]
    simp [bind, Except.bind, Except.map, ht, hl, readTrailing, h' rest, ht']
  skips := by
    right
    use '\\' :: 'u' :: digits, '\\' :: 'u' :: digits', Char.ofNat unit, Char.ofNat unit'
    use rfl, by simp, by simp, reads_number_unpaired h, reads_number_unpaired h'

/-- What is read as an escape by number spells a character. -/
theorem spells_of_readNumberEscape {text rest : List Char} {c : Char}
    (h : readNumberEscape true text = .ok (c, rest)) :
  ∃ s, text = s ++ rest ∧ Spells ('\\' :: 'u' :: s) c
  := by
  rw [readNumberEscape, bind_eq_ok_iff] at h
  obtain ⟨⟨unit, after⟩, hunit, h⟩ := h
  obtain ⟨digits, rfl, hdigits⟩ := reads_of_readUnit hunit
  simp only [Bool.not_true, Bool.false_eq_true, ↓reduceIte] at h
  split at h
  · contradiction
  · next ht =>
    split at h
    · next hl =>
      obtain ⟨digits', unit', rfl, hdigits', ht', hc⟩ := exists_of_readTrailing h
      use digits ++ '\\' :: 'u' :: digits'
      constructor
      · simp
      · rw [hc]
        apply spells_pair hdigits (eq_false_of_ne_true ht) hl hdigits' ht'
    · next hl =>
      cases h
      use digits, rfl
      apply spells_number hdigits (eq_false_of_ne_true ht) (eq_false_of_ne_true hl)

/-- What is read as a character is an escape by number, or a piece that is read as the character
in either way. -/
theorem exists_of_readCharacter {paired : Bool} {text rest : List Char} {c : Char}
    (h : readCharacter paired text = .ok (some c, rest)) :
  (∃ more, text = '\\' :: 'u' :: more ∧ readNumberEscape paired more = .ok (c, rest))
    ∨ ∃ s, text = s ++ rest ∧ s ≠ [] ∧ ∀ paired', Reads (readCharacter paired') s (some c)
  := by
  cases text with
  | nil => contradiction
  | cons d text =>
    rw [readCharacter] at h
    split at h
    · cases h
    split at h
    · next hbackslash =>
      obtain rfl := beq_iff_eq.mp hbackslash
      obtain ⟨⟨c', after⟩, hescape, h⟩ := map_eq_ok_iff.mp h
      cases h
      cases text with
      | nil => contradiction
      | cons e text =>
        rw [readEscape] at hescape
        split at hescape
        · next hu =>
          obtain rfl := beq_iff_eq.mp hu
          left
          use text
        · next hu =>
          split at hescape
          · next found hfound =>
            cases hescape
            right
            use ['\\', e], rfl, by simp
            intro paired' rest
            simp [readCharacter, readEscape, hu, hfound, Except.map]
          · contradiction
    · next hquote hbackslash =>
      split at h
      · contradiction
      · next hcontrol =>
        cases h
        right
        use [c], rfl, by simp
        intro paired' rest
        simp [readCharacter, hquote, hbackslash, hcontrol]

/-- What is read as a character of a string spells it. -/
theorem spells_of_readCharacter {text rest : List Char} {c : Char}
    (h : readCharacter true text = .ok (some c, rest)) :
  ∃ s, text = s ++ rest ∧ Spells s c
  := by
  obtain ⟨more, rfl, hnumber⟩ | ⟨s, rfl, hne, hs⟩ := exists_of_readCharacter h
  · obtain ⟨s, rfl, hs⟩ := spells_of_readNumberEscape hnumber
    use '\\' :: 'u' :: s, rfl
  · exact ⟨s, rfl, spells_of_reads hne hs⟩

/-- A piece of text is one character of a string that is skipped. -/
def Passes (s : List Char) (c : Char) : Prop :=
  s ≠ [] ∧ Reads (readCharacter false) s (some c)

/-- What is skipped as a character of a string is a piece by itself. -/
theorem passes_of_readCharacter {text rest : List Char} {c : Char}
    (h : readCharacter false text = .ok (some c, rest)) :
  ∃ s, text = s ++ rest ∧ Passes s c
  := by
  obtain ⟨more, rfl, hnumber⟩ | ⟨s, rfl, hne, hs⟩ := exists_of_readCharacter h
  · rw [readNumberEscape, bind_eq_ok_iff] at hnumber
    obtain ⟨⟨unit, after⟩, hunit, hc⟩ := hnumber
    obtain ⟨digits, rfl, hdigits⟩ := reads_of_readUnit hunit
    cases hc
    use '\\' :: 'u' :: digits, rfl, by simp
    apply reads_number_unpaired hdigits
  · use s, rfl, hne, hs false

/-! ### Strings -/

/-- The text is a string through its closing quote: it is read so whatever comes after it, and it
can be skipped. -/
structure IsString (s : List Char) (x : String) : Prop where
  /-- The text is read as the string. -/
  reads : Reads readText s x
  /-- The text is skipped. -/
  skips : ∀ rest, skipText (s ++ rest) = .ok rest

/-- The characters of a string, through its closing quote, in pieces of a kind. -/
inductive Spelled (S : List Char → Char → Prop) : List Char → List Char → Prop
  /-- The closing quote ends the string. -/
  | close : Spelled S ['"'] []
  /-- A piece stands for a character. -/
  | character {s s' : List Char} {c : Char} {cs : List Char} :
    S s c → Spelled S s' cs → Spelled S (s ++ s') (c :: cs)

variable {S : List Char → Char → Prop} {s cs bound : List Char} {paired : Bool}

theorem readCharacters_of_reads {c : Char} (h : Reads (readCharacter paired) s (some c)) (e : Char)
    (bound before rest : List Char) :
  readCharacters paired (e :: bound) before (s ++ rest)
    = readCharacters paired bound (c :: before) rest
  := by
  rw [readCharacters, h rest]

theorem readCharacters_close (e : Char) (bound before rest : List Char) :
  readCharacters paired (e :: bound) before (['"'] ++ rest) = .ok (before.reverse, rest)
  := rfl

/-- A bound for a text that is not empty gives up one character for its first piece. -/
theorem exists_bound {s s' : List Char} (hs : s ≠ []) (h : (s ++ s').length ≤ bound.length) :
  ∃ e bound', bound = e :: bound' ∧ s'.length ≤ bound'.length
  := by
  have hpos := List.length_pos_iff.mpr hs
  rw [List.length_append] at h
  obtain ⟨e, bound', rfl⟩ := List.exists_cons_of_length_pos (l := bound) (by omega)
  use e, bound', rfl
  rw [List.length_cons] at h
  omega

/-- A text that spells characters is read as them. -/
theorem Spelled.reads (h : Spelled S s cs)
    (hS : ∀ s c, S s c → s ≠ [] ∧ Reads (readCharacter paired) s (some c))
    (hbound : s.length ≤ bound.length) (before rest : List Char) :
  readCharacters paired bound before (s ++ rest) = .ok (before.reverse ++ cs, rest)
  := by
  induction h generalizing bound before with
  | close =>
    obtain ⟨e, bound, rfl⟩ := List.exists_cons_of_length_pos hbound
    rw [readCharacters_close, List.append_nil]
  | @character s s' c cs hs _ ih =>
    obtain ⟨hne, hreads⟩ := hS s c hs
    obtain ⟨e, bound, rfl, hbound'⟩ := exists_bound hne hbound
    rw [List.append_assoc, readCharacters_of_reads hreads, ih hbound', List.reverse_cons,
      List.append_assoc, List.singleton_append]

/-- A text that spells characters is skipped. -/
theorem Spelled.skips (h : Spelled Spells s cs) (hbound : s.length ≤ bound.length)
    (before rest : List Char) :
  ∃ found, readCharacters false bound before (s ++ rest) = .ok (found, rest)
  := by
  induction h generalizing bound before with
  | close =>
    obtain ⟨e, bound, rfl⟩ := List.exists_cons_of_length_pos hbound
    use before.reverse
    apply readCharacters_close
  | @character s s' c cs hs _ ih =>
    rcases hs.skips with ⟨d, hne, hd⟩ | ⟨a, b, d, d', rfl, hne, hne', hd, hd'⟩
    · obtain ⟨e, bound, rfl, hbound'⟩ := exists_bound hne hbound
      rw [List.append_assoc, readCharacters_of_reads hd]
      apply ih hbound'
    · rw [List.append_assoc] at hbound
      obtain ⟨e, bound, rfl, hbound'⟩ := exists_bound hne hbound
      obtain ⟨e', bound, rfl, hbound''⟩ := exists_bound hne' hbound'
      rw [List.append_assoc, List.append_assoc, readCharacters_of_reads hd,
        readCharacters_of_reads hd']
      apply ih hbound''

theorem Spelled.isString (h : Spelled Spells s cs) :
  IsString s (String.ofList cs)
  where
  reads := by
    intro rest
    rw [readText, h.reads (fun s c hs => ⟨hs.ne_nil, hs.reads⟩) (by simp)]
    rfl
  skips := by
    intro rest
    have hbound : s.length ≤ (s ++ rest).length := by simp
    obtain ⟨found, hfound⟩ := h.skips hbound [] rest
    rw [skipText, hfound]
    rfl

theorem readCharacter_eq_none {text rest : List Char}
    (h : readCharacter paired text = .ok (none, rest)) :
  text = '"' :: rest
  := by
  cases text with
  | nil => contradiction
  | cons c text =>
    rw [readCharacter] at h
    split at h
    · next hquote =>
      cases h
      rw [beq_iff_eq.mp hquote]
    split at h
    · obtain ⟨p, -, hp⟩ := map_eq_ok_iff.mp h
      cases hp
    · split at h <;> cases h

/-- What has been read as the characters of a string consists of the pieces of the characters. -/
theorem spelled_of_readCharacters {before text found rest : List Char}
    (hS : ∀ text c rest, readCharacter paired text = .ok (some c, rest) →
      ∃ s, text = s ++ rest ∧ S s c)
    (h : readCharacters paired bound before text = .ok (found, rest)) :
  ∃ s cs, text = s ++ rest ∧ found = before.reverse ++ cs ∧ Spelled S s cs
  := by
  induction bound generalizing before text with
  | nil => contradiction
  | cons e bound ih =>
    rw [readCharacters] at h
    split at h
    · contradiction
    · next rest' hread =>
      cases h
      use ['"'], [], readCharacter_eq_none hread, (List.append_nil _).symm, .close
    · next c rest' hread =>
      obtain ⟨s, rfl, hs⟩ := hS _ _ _ hread
      obtain ⟨s', cs, rfl, rfl, hcs⟩ := ih h
      use s ++ s', c :: cs, (List.append_assoc _ _ _).symm, by simp, .character hs hcs

/-- What has been read as a string is a string by itself. -/
theorem isString_of_readText {text rest : List Char} {x : String}
    (h : readText text = .ok (x, rest)) :
  ∃ s, text = s ++ rest ∧ IsString s x
  := by
  obtain ⟨⟨found, after⟩, hread, h⟩ := map_eq_ok_iff.mp h
  cases h
  obtain ⟨s, cs, ht, hcs, hs⟩ :=
    spelled_of_readCharacters (fun _ _ _ => spells_of_readCharacter) hread
  rw [List.reverse_nil, List.nil_append] at hcs
  rw [hcs]
  use s, ht
  apply hs.isString

/-- What has been skipped as a string can be skipped by itself. -/
theorem exists_of_skipText {text rest : List Char} (h : skipText text = .ok rest) :
  ∃ s, text = s ++ rest ∧ ∀ rest, skipText (s ++ rest) = .ok rest
  := by
  obtain ⟨⟨found, after⟩, hread, h⟩ := map_eq_ok_iff.mp h
  cases h
  obtain ⟨s, cs, ht, -, hs⟩ :=
    spelled_of_readCharacters (fun _ _ _ => passes_of_readCharacter) hread
  use s, ht
  intro rest
  rw [skipText, hs.reads (fun _ _ hc => hc) (by simp)]
  rfl

/-! ### Strings that are written -/

/-- The digits of the escape of a control character are those of its code. -/
theorem unitAt?_controlEscape :
  ∀ n < 0x20, unitAt? ((controlEscape (Char.ofNat n)).drop 2) = some (n, [])
  := by
  decide

theorem spells_controlEscape {c : Char} (h : c.toNat < 0x20) :
  Spells (controlEscape c) c
  := by
  have hunit := unitAt?_controlEscape c.toNat h
  rw [Char.ofNat_toNat] at hunit
  obtain ⟨digits, ht, hdigits⟩ := reads_of_unitAt? hunit
  rw [List.append_nil] at ht
  have htrailing : isTrailing c.toNat = false := by
    rw [isTrailing, Bool.and_eq_false_iff, decide_eq_false_iff_not]
    left
    omega
  have hleading : isLeading c.toNat = false := by
    rw [isLeading, Bool.and_eq_false_iff, decide_eq_false_iff_not]
    left
    omega
  have hs := spells_number hdigits htrailing hleading
  have hescape : controlEscape c = '\\' :: 'u' :: digits := by
    rw [← ht]
    rfl
  rw [Char.ofNat_toNat, ← hescape] at hs
  apply hs

/-- What is written for a character spells it. -/
theorem spells_writeCharacter (c : Char) :
  Spells (writeCharacter c) c
  := by
  unfold writeCharacter
  split
  case h_8 hquote hbackslash _ _ _ _ _ =>
    split
    · next hcontrol => apply spells_controlEscape hcontrol
    · next hcontrol =>
      apply spells_of_reads (by simp)
      intro paired rest
      rw [List.singleton_append, readCharacter, if_neg (mt beq_iff_eq.mp hquote),
        if_neg (mt beq_iff_eq.mp hbackslash), if_neg hcontrol]
  all_goals
    apply spells_of_reads (by simp)
    intro paired rest
    rfl

theorem spelled_written (cs : List Char) :
  Spelled Spells (cs.flatMap writeCharacter ++ ['"']) cs
  := by
  induction cs with
  | nil => apply Spelled.close
  | cons c cs ih =>
    rw [List.flatMap_cons, List.append_assoc]
    apply Spelled.character (spells_writeCharacter c) ih

/-- What is written for a string is its opening quote and the string through its closing
quote. -/
theorem isString_written (x : String) :
  ∃ s, (writeText x).toList = '"' :: s ∧ IsString s x
  := by
  use x.toList.flatMap writeCharacter ++ ['"']
  have hs := (spelled_written x.toList).isString
  rw [String.ofList_toList] at hs
  constructor
  · rw [writeText, String.toList_ofList]
  · apply hs

end SqlScribe.Json
