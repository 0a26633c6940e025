import SqlScribe.Json.Reader
import SqlScribe.Text.Bytes

/-!
# JSON strings

A string stands between double quotes and holds no control character.  A backslash starts
an escape: a letter for one of a few characters, or `u` with four hexadecimal digits for a
unit of UTF-16.  Two units that make up a surrogate pair stand for one character.  Where a
string is read for its text (`readText`), a surrogate must be part of a pair; where it is
skipped, every unit is as good as another.
-/

namespace SqlScribe.Json

/-- The value of a hexadecimal digit. -/
def hexValue? (c : Char) : Option Nat :=
  if c.isDigit then some (c.toNat - '0'.toNat)
  else if 'a' ≤ c && c ≤ 'f' then some (c.toNat - 'a'.toNat + 10)
  else if 'A' ≤ c && c ≤ 'F' then some (c.toNat - 'A'.toNat + 10)
  else none

/-- The value of four hexadecimal digits at the start of a text. -/
def unitAt? : List Char → Option (Nat × List Char)
  | a :: b :: c :: d :: rest => do
    let a ← hexValue? a
    let b ← hexValue? b
    let c ← hexValue? c
    let d ← hexValue? d
    return (((a * 16 + b) * 16 + c) * 16 + d, rest)
  | _ => none

/-- Reads the four digits of a unit.  They are missing at the end of the text if fewer than
four bytes are left. -/
def readUnit : Reader Nat := fun text =>
  match unitAt? text with
  | some found => .ok found
  | none => .error (if Text.byteLength text < 4 then .truncated else .malformed)

/-- Whether a unit is the first half of a surrogate pair. -/
def isLeading (unit : Nat) : Bool :=
  0xD800 ≤ unit && unit ≤ 0xDBFF

/-- Whether a unit is the second half of a surrogate pair. -/
def isTrailing (unit : Nat) : Bool :=
  0xDC00 ≤ unit && unit ≤ 0xDFFF

/-- The character of a surrogate pair. -/
def pairCharacter (leading trailing : Nat) : Char :=
  Char.ofNat ((leading - 0xD800) * 0x400 + (trailing - 0xDC00) + 0x10000)

/-- Reads the second half of a surrogate pair, after its first half. -/
def readTrailing (leading : Nat) : Reader Char
  | '\\' :: 'u' :: rest => do
    let (unit, after) ← readUnit rest
    if isTrailing unit then .ok (pairCharacter leading unit, after) else .error .malformed
  | text => .error (if text.isEmpty || text == ['\\'] then .truncated else .malformed)

/-- Reads the character of an escape by number, after the `u`. -/
def readNumberEscape (paired : Bool) : Reader Char := fun text => do
  let (unit, rest) ← readUnit text
  if !paired then .ok (Char.ofNat unit, rest)
  else if isTrailing unit then .error .malformed
  else if isLeading unit then readTrailing unit rest
  else .ok (Char.ofNat unit, rest)

/-- The character that a letter stands for after a backslash. -/
def escaped? : Char → Option Char
  | '"' => some '"'
  | '\\' => some '\\'
  | '/' => some '/'
  | 'b' => some '\x08'
  | 'f' => some '\x0c'
  | 'n' => some '\n'
  | 'r' => some '\r'
  | 't' => some '\t'
  | _ => none

/-- Reads the character of an escape, after the backslash. -/
def readEscape (paired : Bool) : Reader Char
  | [] => .error .truncated
  | c :: rest =>
    if c == 'u' then readNumberEscape paired rest
    else
      match escaped? c with
      | some d => .ok (d, rest)
      | none => .error .malformed

/-- Reads one character of a string, or its closing quote, for which there is none. -/
def readCharacter (paired : Bool) : Reader (Option Char)
  | [] => .error .truncated
  | c :: rest =>
    if c == '"' then .ok (none, rest)
    else if c == '\\' then (readEscape paired rest).map fun (d, after) => (some d, after)
    else if c.toNat < 0x20 then .error .malformed
    else .ok (some c, rest)

/-- Reads the characters of a string up to its closing quote, after the ones that are given
in reverse.  One character of a bound is given up for each of them. -/
def readCharacters (paired : Bool) : List Char → List Char → Reader (List Char)
  | [], _, _ => .error .truncated
  | _ :: bound, before, text =>
    match readCharacter paired text with
    | .error f => .error f
    | .ok (none, rest) => .ok (before.reverse, rest)
    | .ok (some c, rest) => readCharacters paired bound (c :: before) rest

/-- Reads a string, of which the opening quote has been taken off. -/
def readText : Reader String := fun text =>
  (readCharacters true text [] text).map fun (chars, rest) => (String.ofList chars, rest)

/-- Skips a string, of which the opening quote has been taken off. -/
def skipText (text : List Char) : Except Fault (List Char) :=
  (readCharacters false text [] text).map (·.2)

end SqlScribe.Json
