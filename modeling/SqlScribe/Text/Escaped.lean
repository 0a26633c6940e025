import SqlScribe.Text.Unprintable

/-!
# Escaped text

A text shown on one line between double quotes.  The controls that have a letter of their
own, the double quote and the backslash stand behind a backslash; every other unprintable
character is given by its code point in hexadecimal.  No escaped text holds a line break, so
a listing can give every text a line of its own.
-/

namespace SqlScribe.Text.Escaped

/-- The digits of a number in lower-case hexadecimal. -/
def hexadecimal (n : Nat) : List Char :=
  Nat.toDigits 16 n

/-- The escaped form of a character. -/
def escape (c : Char) : List Char :=
  match c with
  | '\x00' => ['\\', '0']
  | '\t' => ['\\', 't']
  | '\r' => ['\\', 'r']
  | '\n' => ['\\', 'n']
  | '"' => ['\\', '"']
  | '\\' => ['\\', '\\']
  | c =>
    if isUnprintable c then ['\\', 'u', '\x7b'] ++ hexadecimal c.toNat ++ ['\x7d'] else [c]

/-- The escaped form of a text, with its double quotes. -/
def encode (text : List Char) : List Char :=
  '"' :: (text.flatMap escape ++ ['"'])

/-- The escaped form of a string, with its double quotes. -/
def quoted (text : String) : String :=
  String.ofList (encode text.toList)

end SqlScribe.Text.Escaped
