import SqlScribe.Proofs.Sql.Place

/-!
# The tokens of a source partition it

The tokens of a source lie side by side from its first byte to its last: none is empty,
each begins where the one before it ends, and the text of each is what its span cuts out of
the bytes of the source.  Nothing in this depends on the source being well formed, since a
quoted text or a comment without an end takes all that is left.  The same is said of the
places between the tokens: the offset of each lies between two characters of the source,
and it grows with every token.
-/

namespace SqlScribe.Sql

open Text

/-- The tokens lie side by side from an offset to another, and none of them is empty. -/
def Contiguous : Nat → Nat → List Token → Prop
  | start, stop, [] => start = stop
  | start, stop, t :: rest =>
    t.span.start = start ∧ start < t.span.stop ∧ Contiguous t.span.stop stop rest

/-- The offset lies in a source between two of its characters, or at one of its two ends. -/
def IsBoundary (source : String) (offset : Nat) : Prop :=
  String.Pos.Raw.IsValid source ⟨offset⟩

/-- The text consists of the bytes of a source that lie in a span, whose ends lie between
characters. -/
structure IsSlice (source : String) (span : Span) (text : String) : Prop where
  /-- The span begins between two characters. -/
  start_boundary : IsBoundary source span.start
  /-- The span ends between two characters. -/
  stop_boundary : IsBoundary source span.stop
  /-- The span does not end before it begins. -/
  start_le_stop : span.start ≤ span.stop
  /-- The bytes of the text are those in the span. -/
  bytes_eq : text.toByteArray = source.toByteArray.extract span.start span.stop

/-- A part of a source is the slice between the text before it and the text after it. -/
theorem isSlice_of_append {source : String} {before text rest : List Char}
    (h : source.toList = before ++ text ++ rest) :
  IsSlice source ⟨byteLength before, byteLength before + byteLength text⟩ (String.ofList text)
  := by
  have hs : source = String.ofList before ++ String.ofList text ++ String.ofList rest := by
    rw [← String.ofList_append, ← String.ofList_append, ← h, String.ofList_toList]
  constructor
  · apply String.Pos.Raw.isValid_iff_exists_append.mpr
    use String.ofList before, String.ofList text ++ String.ofList rest
    constructor
    · rw [hs, String.append_assoc]
    · rw [String.Pos.Raw.ext_iff, String.byteIdx_rawEndPos, byteLength_ofList]
  · apply String.Pos.Raw.isValid_iff_exists_append.mpr
    use String.ofList before ++ String.ofList text, String.ofList rest, hs
    rw [String.Pos.Raw.ext_iff, String.byteIdx_rawEndPos, String.utf8ByteSize_append,
      byteLength_ofList, byteLength_ofList]
  · apply Nat.le_add_right
  · have hb : (String.ofList before).toByteArray.size = byteLength before := by
      rw [String.size_toByteArray, byteLength_ofList]
    have ht : (String.ofList text).toByteArray.size = byteLength text := by
      rw [String.size_toByteArray, byteLength_ofList]
    calc (String.ofList text).toByteArray
        = ((String.ofList text).toByteArray ++ (String.ofList rest).toByteArray).extract 0
            (byteLength text) := (ByteArray.extract_append_eq_left ht.symm).symm
      _ = ((String.ofList before).toByteArray
            ++ ((String.ofList text).toByteArray ++ (String.ofList rest).toByteArray)).extract
            (byteLength before + 0) (byteLength before + byteLength text) :=
          (ByteArray.extract_append_size_add' hb.symm).symm
      _ = source.toByteArray.extract (byteLength before)
            (byteLength before + byteLength text) := by
          rw [hs, String.append_assoc, String.toByteArray_append, String.toByteArray_append,
            Nat.add_zero]

theorem byteLength_pos {text : List Char} (h : text ≠ []) :
  0 < byteLength text
  := by
  cases text with
  | nil => contradiction
  | cons c rest =>
    have hc := c.utf8Size_pos
    simp only [byteLength]
    omega

namespace Lexer

/-- The token at a place is a part of the source that is not empty, and it takes the bytes
between the place and the one after it. -/
theorem IsIn.slice_next {l l' : Lexer} {source : String} {before : List Char} {t : Token}
    (hl : l.IsIn source before) (h : l.next? = some (t, l')) :
  t.span = ⟨l.offset, l'.offset⟩ ∧ l.offset < l'.offset ∧ IsSlice source t.span t.text
  := by
  obtain ⟨-, x, hx, rfl, rfl⟩ := next?_eq_some_iff.mp h
  have hpos := byteLength_pos (lexeme?_text_ne_nil hx)
  have hs : source.toList = before ++ x.text ++ x.rest := by
    rw [hl.source_eq, ← lexeme?_append hx, List.append_assoc]
  constructor
  · rfl
  constructor
  · simp only [after]
    omega
  · simp only [tokenAt, hl.offset_eq]
    apply isSlice_of_append hs

/-- What is left at a place are the bytes of the source from the place on. -/
theorem IsIn.slice_rest {l : Lexer} {source : String} {before : List Char}
    (hl : l.IsIn source before) :
  IsSlice source ⟨l.offset, source.utf8ByteSize⟩ (String.ofList l.rest)
  := by
  have hs : source.toList = before ++ l.rest ++ [] := by
    rw [hl.source_eq, List.append_nil]
  rw [hl.offset_eq, ← byteLength_toList, hl.source_eq, byteLength_append]
  apply isSlice_of_append hs

/-- The tokens from a place on lie side by side up to the end of the source. -/
theorem IsIn.contiguous_tokens {l : Lexer} {source : String} {before : List Char}
    (hl : l.IsIn source before) :
  Contiguous l.offset source.utf8ByteSize l.tokens
  := by
  induction l using tokens.induct generalizing before with
  | case1 l h =>
    have hr : l.rest = [] := (next?_eq_none_iff.mp h).elim hl.rest_eq_nil id
    rw [tokens_of_next?_eq_none h, Contiguous, hl.offset_eq, ← byteLength_toList, hl.source_eq,
      hr, List.append_nil]
  | case2 l t l' h ih =>
    obtain ⟨hspan, hlt, -⟩ := hl.slice_next h
    rw [tokens_of_next?_eq_some h, Contiguous, hspan]
    use rfl, hlt, ih (hl.next h)

/-- Each token from a place on is a part of the source. -/
theorem IsIn.isSlice_of_mem_tokens {l : Lexer} {source : String} {before : List Char}
    (hl : l.IsIn source before) {t : Token} (ht : t ∈ l.tokens) :
  IsSlice source t.span t.text
  := by
  induction l using tokens.induct generalizing before with
  | case1 l h => simp [tokens_of_next?_eq_none h] at ht
  | case2 l u l' h ih =>
    rw [tokens_of_next?_eq_some h, List.mem_cons] at ht
    rcases ht with rfl | ht
    · exact (hl.slice_next h).2.2
    · exact ih (hl.next h) ht

/-- The texts of the tokens from a place on make up what is left there. -/
theorem IsIn.flatMap_text_tokens {l : Lexer} {source : String} {before : List Char}
    (hl : l.IsIn source before) :
  l.tokens.flatMap (·.text.toList) = l.rest
  := by
  induction l using tokens.induct generalizing before with
  | case1 l h =>
    rw [tokens_of_next?_eq_none h, (next?_eq_none_iff.mp h).elim hl.rest_eq_nil id]
    rfl
  | case2 l t l' h ih =>
    obtain ⟨-, x, hx, rfl, rfl⟩ := next?_eq_some_iff.mp h
    rw [tokens_of_next?_eq_some h, List.flatMap_cons, ih (hl.next h), ← lexeme?_append hx]
    simp [tokenAt, after]

end Lexer

/-- The tokens of a source are parts of it that lie side by side from its first byte to its
last, and their texts in order are the source.  At every place that the reading comes to, what
is left is a slice of the source, so the offset of the place is a boundary within the source;
a token there takes the bytes from the place up to a later one. -/
theorem tokenize_partitions (source : String) :
  Contiguous 0 source.utf8ByteSize (tokenize source)
    ∧ (∀ t ∈ tokenize source, IsSlice source t.span t.text)
    ∧ String.join ((tokenize source).map (·.text)) = source
    ∧ ∀ l, Lexer.Reachable source l →
      IsSlice source ⟨l.offset, source.utf8ByteSize⟩ (String.ofList l.rest)
        ∧ ∀ t l', l.next? = some (t, l') → t.span = ⟨l.offset, l'.offset⟩ ∧ l.offset < l'.offset
  := by
  have hstart := Lexer.isIn_ofSource source
  constructor
  · apply hstart.contiguous_tokens
  constructor
  · intro t ht
    apply hstart.isSlice_of_mem_tokens ht
  constructor
  · rw [← String.toList_inj, String.toList_join, List.flatMap_map]
    apply hstart.flatMap_text_tokens
  · intro l hl
    obtain ⟨before, hb⟩ := hl.isIn
    use hb.slice_rest
    intro t l' h
    obtain ⟨hspan, hlt, -⟩ := hb.slice_next h
    use hspan

end SqlScribe.Sql
