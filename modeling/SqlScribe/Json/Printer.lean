/-!
# Writing JSON

`Json` is a document that is written: truth values, natural numbers, strings, arrays and
objects.  It is written compactly, without any blank characters, or with every element and
every member on a line of its own.  Strings escape the double quote, the backslash and the
control characters, and nothing else.
-/

namespace SqlScribe

/-- A document of JSON. -/
inductive Json where
  /-- A truth value. -/
  | boolean (b : Bool)
  /-- A natural number. -/
  | natural (n : Nat)
  /-- A string. -/
  | string (s : String)
  /-- An array. -/
  | array (elements : List Json)
  /-- An object. -/
  | object (members : List (String × Json))

namespace Json

/-- The escape of a control character that has none of its own, in four hexadecimal
digits. -/
def controlEscape (c : Char) : List Char :=
  let digits := Nat.toDigits 16 c.toNat
  ['\\', 'u'] ++ List.replicate (4 - digits.length) '0' ++ digits

/-- A character as it is written in a string. -/
def writeCharacter (c : Char) : List Char :=
  match c with
  | '"' => ['\\', '"']
  | '\\' => ['\\', '\\']
  | '\x08' => ['\\', 'b']
  | '\t' => ['\\', 't']
  | '\n' => ['\\', 'n']
  | '\x0c' => ['\\', 'f']
  | '\r' => ['\\', 'r']
  | c => if c.toNat < 0x20 then controlEscape c else [c]

/-- A string with its quotes. -/
def writeText (s : String) : String :=
  String.ofList ('"' :: (s.toList.flatMap writeCharacter ++ ['"']))

mutual

/-- A document without blank characters. -/
def compact : Json → String
  | boolean b => if b then "true" else "false"
  | natural n => toString n
  | string s => writeText s
  | array elements => "[" ++ compactElements elements ++ "]"
  | object members => "\x7b" ++ compactMembers members ++ "\x7d"

/-- The elements of an array, separated by commas. -/
def compactElements : List Json → String
  | [] => ""
  | [e] => e.compact
  | e :: rest => e.compact ++ "," ++ compactElements rest

/-- The members of an object, separated by commas. -/
def compactMembers : List (String × Json) → String
  | [] => ""
  | [(key, e)] => writeText key ++ ":" ++ e.compact
  | (key, e) :: rest => writeText key ++ ":" ++ e.compact ++ "," ++ compactMembers rest

end

/-- The start of a line at a depth of nesting. -/
def indentation (depth : Nat) : String :=
  String.ofList (List.replicate (2 * depth) ' ')

mutual

/-- A document on several lines, of which the first is at a depth of nesting. -/
def pretty (depth : Nat) : Json → String
  | boolean b => if b then "true" else "false"
  | natural n => toString n
  | string s => writeText s
  | array [] => "[]"
  | array elements =>
    "[\n" ++ prettyElements (depth + 1) elements ++ "\n" ++ indentation depth ++ "]"
  | object [] => "\x7b\x7d"
  | object members =>
    "\x7b\n" ++ prettyMembers (depth + 1) members ++ "\n" ++ indentation depth ++ "\x7d"

/-- The elements of an array, on lines at a depth of nesting. -/
def prettyElements (depth : Nat) : List Json → String
  | [] => ""
  | [e] => indentation depth ++ e.pretty depth
  | e :: rest =>
    indentation depth ++ e.pretty depth ++ ",\n" ++ prettyElements depth rest

/-- The members of an object, on lines at a depth of nesting. -/
def prettyMembers (depth : Nat) : List (String × Json) → String
  | [] => ""
  | [(key, e)] => indentation depth ++ writeText key ++ ": " ++ e.pretty depth
  | (key, e) :: rest =>
    indentation depth ++ writeText key ++ ": " ++ e.pretty depth ++ ",\n"
      ++ prettyMembers depth rest

end

end Json

end SqlScribe
