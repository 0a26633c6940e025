import SqlScribe.Calendar.Moment
import SqlScribe.Number.Decimal
import SqlScribe.Text.Blank

/-!
# Timestamps

The texts that are read as moments, in four forms.  The first is the one for the Internet:
numbers of fixed width, a `T` or a space between the date and the time, an optional
fraction of a second, and an offset from universal time, by which the moment is moved.  The
others are looser and have no offset: a date, a `T` and a time; a date, any number of blank
characters and a time; and a date alone, for its midnight.  In these a number can have
blank characters before it and fewer digits than usual, and a year with a sign can have
more.  The first form that reads the whole text decides, and fractions of seconds are
dropped.  `normalizeTimestamp?` gives the moment of a text in one fixed layout.
-/

namespace SqlScribe.Calendar

/-- Something that takes a value off the start of a text. -/
abbrev Scan (α : Type) := List Char → Option (α × List Char)

/-- Takes a character off the text. -/
def skipCharacter (c : Char) : List Char → Option (List Char)
  | [] => none
  | d :: rest => if c == d then some rest else none

/-- Reads a number of at most `width` digits. -/
def readDigits (width : Nat) : Scan Nat := fun text =>
  let digits := (text.take width).takeWhile Char.isDigit
  if digits.isEmpty then none else some (Number.ofDigits digits, text.drop digits.length)

/-- Reads a number of exactly `width` digits. -/
def readExactly (width : Nat) : Scan Nat := fun text =>
  let digits := (text.take width).takeWhile Char.isDigit
  if digits.length = width then some (Number.ofDigits digits, text.drop width) else none

/-- Reads a fraction of a second, if there is one, for nothing but the text after it. -/
def skipFraction : List Char → Option (List Char)
  | '.' :: rest =>
    let digits := rest.takeWhile Char.isDigit
    if digits.isEmpty then none else some (rest.drop digits.length)
  | text => some text

/-! ### Moments with an offset -/

/-- Reads a date of fixed width. -/
def readFixedDate : Scan Date := fun text => do
  let (year, rest) ← readExactly 4 text
  let rest ← skipCharacter '-' rest
  let (month, rest) ← readExactly 2 rest
  let rest ← skipCharacter '-' rest
  let (day, rest) ← readExactly 2 rest
  let date ← Date.ofParts? year month day
  return (date, rest)

/-- Reads a time of fixed width, on a date. -/
def readFixedTime (date : Date) : Scan Moment := fun text => do
  let (hour, rest) ← readExactly 2 text
  let rest ← skipCharacter ':' rest
  let (minute, rest) ← readExactly 2 rest
  let rest ← skipCharacter ':' rest
  let (second, rest) ← readExactly 2 rest
  let rest ← skipFraction rest
  let moment ← Moment.ofParts? date hour minute second
  return (moment, rest)

/-- The sign of an offset; a minus can be the hyphen or the sign of mathematics. -/
def offsetSign? (c : Char) : Option Int :=
  if c == '+' then some 1
  else if c == '-' || c == '\u2212' then some (-1)
  else none

/-- Reads an offset in minutes. -/
def readOffset : Scan Int
  | [] => none
  | c :: rest =>
    if c == 'Z' || c == 'z' then some (0, rest)
    else do
      let sign ← offsetSign? c
      let (hours, rest) ← readExactly 2 rest
      let rest ← skipCharacter ':' rest
      let (minutes, rest) ← readExactly 2 rest
      if hours < 24 ∧ minutes < 60 then some (sign * (60 * hours + minutes : Nat), rest) else none

/-- Takes the character between a date and a time off the text. -/
def skipSeparator : List Char → Option (List Char)
  | [] => none
  | c :: rest => if c == 'T' || c == 't' || c == ' ' then some rest else none

/-- The moment of a text with an offset, as it is written, and the offset in minutes. -/
def readWithOffset? (text : List Char) : Option (Moment × Int) := do
  let (date, rest) ← readFixedDate text
  let rest ← skipSeparator rest
  let (moment, rest) ← readFixedTime date rest
  let (offset, rest) ← readOffset rest
  if rest.isEmpty then some (moment, offset) else none

/-! ### Moments without an offset -/

/-- Reads a number of at most two digits after any blank characters. -/
def readLoose : Scan Nat := fun text =>
  readDigits 2 (Text.trimStart text)

/-- Reads a year after any blank characters: at most four digits, or a sign and any number of
digits. -/
def readYear : Scan Int := fun text =>
  match Text.trimStart text with
  | '-' :: rest => (readDigits rest.length rest).map fun (n, after) => (-(n : Int), after)
  | '+' :: rest => (readDigits rest.length rest).map fun (n, after) => ((n : Int), after)
  | rest => (readDigits 4 rest).map fun (n, after) => ((n : Int), after)

/-- Whether a year is one of those that are read. -/
def isReadableYear (year : Int) : Bool :=
  -262143 ≤ year && year ≤ 262142

/-- Reads a date. -/
def readDate : Scan Date := fun text => do
  let (year, rest) ← readYear text
  let rest ← skipCharacter '-' rest
  let (month, rest) ← readLoose rest
  let rest ← skipCharacter '-' rest
  let (day, rest) ← readLoose rest
  if isReadableYear year then
    let date ← Date.ofParts? year month day
    return (date, rest)
  else none

/-- Reads a time, on a date. -/
def readTime (date : Date) : Scan Moment := fun text => do
  let (hour, rest) ← readLoose text
  let rest ← skipCharacter ':' rest
  let (minute, rest) ← readLoose rest
  let rest ← skipCharacter ':' rest
  let (second, rest) ← readLoose rest
  let rest ← skipFraction rest
  let moment ← Moment.ofParts? date hour minute second
  return (moment, rest)

/-- The moment of a text without an offset; `separator` takes what stands between the date
and the time off the text. -/
def readWithout? (separator : List Char → Option (List Char)) (text : List Char) :
    Option Moment := do
  let (date, rest) ← readDate text
  let rest ← separator rest
  let (moment, rest) ← readTime date rest
  if rest.isEmpty then some moment else none

/-- The midnight of a text that is a date. -/
def readDateOnly? (text : List Char) : Option Moment := do
  let (date, rest) ← readDate text
  if rest.isEmpty then some (Moment.midnight date) else none

/-- The moment of a text, in universal time if the text has an offset. -/
def readMoment? (text : List Char) : Option Moment :=
  ((readWithOffset? text).map fun (moment, offset) => moment.minusMinutes offset)
    <|> readWithout? (skipCharacter 'T') text
    <|> readWithout? (fun rest => some (Text.trimStart rest)) text
    <|> readDateOnly? text

/-- The moment of a text in the layout `YYYY-MM-DD HH:MM:SS`. -/
def normalizeTimestamp? (text : String) : Option String :=
  (readMoment? (Text.trim text.toList)).map Moment.write

end SqlScribe.Calendar
