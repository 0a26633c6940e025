/-!
# Blank characters

A character is blank when it has the Unicode property White_Space; `isBlank` decides it.
Blank characters separate the tokens of SQL text, and they do not count at either end of a
name, a number or a timestamp: `trim` drops them there, and `isBlankText` says that
nothing is left.  The zero-width space, the byte order mark and the ASCII separators
`U+001C` to `U+001F` are not blank.
-/

namespace SqlScribe.Text

/-- The first and last code points of the runs of blank characters. -/
def blankRuns : List (Nat × Nat) :=
  [(0x09, 0x0D), (0x20, 0x20), (0x85, 0x85), (0xA0, 0xA0), (0x1680, 0x1680), (0x2000, 0x200A),
    (0x2028, 0x2029), (0x202F, 0x202F), (0x205F, 0x205F), (0x3000, 0x3000)]

/-- Whether a character is blank. -/
def isBlank (c : Char) : Bool :=
  blankRuns.any fun run => run.1 ≤ c.toNat && c.toNat ≤ run.2

/-- The text without the blank characters at its start. -/
def trimStart (text : List Char) : List Char :=
  text.dropWhile isBlank

/-- The text without the blank characters at its two ends. -/
def trim (text : List Char) : List Char :=
  (trimStart (trimStart text).reverse).reverse

/-- The string without the blank characters at its two ends. -/
def trimmed (text : String) : String :=
  String.ofList (trim text.toList)

/-- Whether a string holds blank characters only. -/
def isBlankText (text : String) : Bool :=
  (trim text.toList).isEmpty

theorem isBlankText_iff {text : String} :
  isBlankText text = true ↔ trimmed text = ""
  := by
  rw [isBlankText, trimmed, List.isEmpty_iff, ← String.toList_eq_nil_iff, String.toList_ofList]

end SqlScribe.Text
