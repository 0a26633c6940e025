/-!
# Lengths in bytes

Places in a text are counted in bytes of its UTF-8 encoding.
-/

namespace SqlScribe.Text

/-- The number of bytes that a text takes in UTF-8. -/
def byteLength : List Char → Nat
  | [] => 0
  | c :: rest => c.utf8Size + byteLength rest

/-- The parts of a text take the bytes of the whole. -/
theorem byteLength_append (a b : List Char) :
  byteLength (a ++ b) = byteLength a + byteLength b
  := by
  induction a with
  | nil => simp [byteLength]
  | cons c a ih => simp [byteLength, ih, Nat.add_assoc]

/-- A string takes the bytes of its characters. -/
theorem byteLength_ofList (text : List Char) :
  (String.ofList text).utf8ByteSize = byteLength text
  := by
  induction text with
  | nil => rfl
  | cons c rest ih =>
    rw [show c :: rest = [c] ++ rest from rfl, String.ofList_append, String.utf8ByteSize_append, ih,
      ← String.singleton_eq_ofList, String.utf8ByteSize_singleton]
    rfl

/-- The characters of a string take its bytes. -/
theorem byteLength_toList (s : String) :
  byteLength s.toList = s.utf8ByteSize
  := by
  rw [← byteLength_ofList, String.ofList_toList]

end SqlScribe.Text
