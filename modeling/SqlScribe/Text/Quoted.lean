/-!
# Quoted text

A quoted text stands between two marks.  The characters that its style doubles are
written twice inside, so that the mark that ends it is the first one that does not come
in a pair.  Some styles double the backslash as well, because their readers take a
backslash together with the character after it.  `Style.encode` writes a text, and
`Style.read?` reads one at the start of a longer text and returns it with what follows.
-/

namespace SqlScribe.Text.Quoted

/-- How a quoted text is delimited and escaped. -/
structure Style where
  /-- The character at both ends, doubled inside. -/
  mark : Char
  /-- Whether a backslash is an escape character, and so doubled inside. -/
  backslashEscapes : Bool
  deriving Repr, DecidableEq

namespace Style

/-- Whether a character is written twice inside a quoted text. -/
def doubles (style : Style) (c : Char) : Bool :=
  c == style.mark || (style.backslashEscapes && c == '\\')

/-- The inside of a quoted text. -/
def body (style : Style) (text : List Char) : List Char :=
  text.flatMap fun c => if style.doubles c then [c, c] else [c]

/-- The quoted form of a text. -/
def encode (style : Style) (text : List Char) : List Char :=
  style.mark :: (style.body text ++ [style.mark])

/-- Reads the inside of a quoted text and the mark that ends it.  A backslash that escapes
takes the character after it literally when that is a mark or a backslash. -/
def readBody? (style : Style) : List Char → Option (List Char × List Char)
  | [] => none
  | [c] => if c == style.mark then some ([], []) else none
  | c :: d :: rest =>
    if c == style.mark then
      if d == style.mark then (style.readBody? rest).map fun (text, after) => (d :: text, after)
      else some ([], d :: rest)
    else if style.backslashEscapes && c == '\\' && style.doubles d then
      (style.readBody? rest).map fun (text, after) => (d :: text, after)
    else (style.readBody? (d :: rest)).map fun (text, after) => (c :: text, after)

/-- Reads a quoted text at the start of the input; the result is the text and the input
after the closing mark. -/
def read? (style : Style) : List Char → Option (List Char × List Char)
  | [] => none
  | c :: rest => if c == style.mark then style.readBody? rest else none

/-- The quoted form of a string. -/
def quote (style : Style) (text : String) : String :=
  String.ofList (style.encode text.toList)

end Style

end SqlScribe.Text.Quoted
