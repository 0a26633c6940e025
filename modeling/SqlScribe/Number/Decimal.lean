import SqlScribe.Text.Run

/-!
# Decimal numbers

A decimal number is a sign, a significand and a power of ten.  `Decimal.parse?` reads the
text of one: an optional sign, digits with an optional point and at least one digit, and an
optional exponent.  Such a number has a double-precision value unless it rounds to
infinity, which `Decimal.overflows` decides exactly.
-/

namespace SqlScribe.Number

/-- The value of a run of decimal digits. -/
def ofDigits (digits : List Char) : Nat :=
  digits.foldl (fun n c => 10 * n + (c.toNat - '0'.toNat)) 0

/-- The number of digits that a positive number is written with. -/
def digitCount (n : Nat) : Nat :=
  (Nat.toDigits 10 n).length

/-- A number `± significand · 10 ^ exponent`. -/
structure Decimal where
  /-- Whether the number carries a minus sign; zero may. -/
  negative : Bool
  /-- The digits, read as a whole number. -/
  significand : Nat
  /-- The power of ten that the digits are scaled by. -/
  exponent : Int
  deriving Repr, DecidableEq

namespace Decimal

/-- Takes an optional sign off the text and says whether it is a minus. -/
def splitSign : List Char → Bool × List Char
  | '-' :: rest => (true, rest)
  | '+' :: rest => (false, rest)
  | text => (false, text)

/-- Reads what may follow the digits: nothing, or an exponent. -/
def readExponent? : List Char → Option Int
  | [] => some 0
  | c :: rest =>
    let (negative, digits) := splitSign rest
    if (c == 'e' || c == 'E') && !digits.isEmpty && digits.all Char.isDigit then
      some (if negative then -(ofDigits digits : Int) else ofDigits digits)
    else none

/-- Splits a text at a decimal point into the digits after it and the rest. -/
def splitFraction : List Char → List Char × List Char
  | '.' :: rest => Text.splitRun Char.isDigit rest
  | text => ([], text)

/-- Reads the text of a decimal number. -/
def parse? (text : List Char) : Option Decimal :=
  let (negative, unsigned) := splitSign text
  let (whole, afterWhole) := Text.splitRun Char.isDigit unsigned
  let (fraction, afterFraction) := splitFraction afterWhole
  if whole.isEmpty && fraction.isEmpty then none
  else
    (readExponent? afterFraction).map fun exponent =>
      { negative
        significand := ofDigits (whole ++ fraction)
        exponent := exponent - fraction.length }

/-- The least magnitude that rounds to infinity: halfway from the largest double to the
next power of two. -/
def overflowLimit : Nat :=
  Nat.pow 2 1024 - Nat.pow 2 970

/-- The position of the leading digit: a nonzero number is at least `10 ^ (order - 1)` and
less than `10 ^ order`. -/
def order (d : Decimal) : Int :=
  digitCount d.significand + d.exponent

/-- Whether the number is too large for any double.  The order settles all but a few
numbers, so no power of ten is formed that the digits do not pay for. -/
def overflows (d : Decimal) : Bool :=
  if d.significand == 0 || d.order ≤ 308 then false
  else if 309 < d.order then true
  else overflowLimit * Nat.pow 10 (-d.exponent).toNat
    ≤ d.significand * Nat.pow 10 d.exponent.toNat

end Decimal

end SqlScribe.Number
