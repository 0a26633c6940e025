import SqlScribe.Json.Reader
import SqlScribe.Text.Run

/-!
# JSON numbers

A number is a sign, digits without a leading zero, optional digits after a point and an
optional exponent.  A number without a point and an exponent is an integer if it fits 64
bits, with a sign or without; minus zero is none.  All other numbers are doubles, which are
found from a significand of 64 bits: digits before the point that no longer fit only move
the point, digits after it that no longer fit are left out, and the significand is rounded
to a double before a power of ten is applied to it.  The value can therefore differ in its
last bits from the double that is nearest to the number.  A number whose value would be
infinite is malformed.
-/

namespace SqlScribe.Json

open Number

/-- The parts of a number as it is written. -/
structure Numeral where
  /-- Whether a minus sign comes first. -/
  negative : Bool
  /-- The digits before the point. -/
  whole : List Char
  /-- The digits after the point, if there is one. -/
  fraction : Option (List Char)
  /-- The sign and the digits of the exponent, if there is one. -/
  exponent : Option (Bool × List Char)
  deriving Repr, DecidableEq

/-- Reads at least one digit; `atEnd` is the fault of a text that ends instead. -/
def readDigits (atEnd : Fault) : Reader (List Char) := fun text =>
  let (digits, rest) := Text.splitRun Char.isDigit text
  if digits.isEmpty then .error (if text.isEmpty then atEnd else .malformed)
  else .ok (digits, rest)

/-- Reads the digits before the point; a zero can only be alone. -/
def readWhole (atEnd : Fault) : Reader (List Char) := fun text => do
  let (digits, rest) ← readDigits atEnd text
  if digits.head? == some '0' && 1 < digits.length then .error .malformed
  else .ok (digits, rest)

/-- Reads a point with the digits after it, if there is one. -/
def readFraction (atEnd : Fault) : Reader (Option (List Char))
  | '.' :: rest => (readDigits atEnd rest).map fun (digits, after) => (some digits, after)
  | text => .ok (none, text)

/-- Reads an exponent, if there is one. -/
def readExponent (atEnd : Fault) : Reader (Option (Bool × List Char))
  | [] => .ok (none, [])
  | c :: rest =>
    if c == 'e' || c == 'E' then
      let (negative, unsigned) := Decimal.splitSign rest
      (readDigits atEnd unsigned).map fun (digits, after) => (some (negative, digits), after)
    else .ok (none, c :: rest)

/-- Reads the parts of a number; `atEnd` is the fault of a text that ends within one. -/
def readNumeral (atEnd : Fault) : Reader Numeral := fun text => do
  let (negative, unsigned) :=
    match text with
    | '-' :: rest => (true, rest)
    | _ => (false, text)
  let (whole, afterWhole) ← readWhole atEnd unsigned
  let (fraction, afterFraction) ← readFraction atEnd afterWhole
  let (exponent, rest) ← readExponent atEnd afterFraction
  return (⟨negative, whole, fraction, exponent⟩, rest)

/-- A number of JSON. -/
inductive Numeric where
  /-- An integer of 64 bits, signed or not. -/
  | integer (n : Int)
  /-- A double. -/
  | real (x : Double)
  deriving Repr, DecidableEq

/-- The number of digits of a significand in which one more digit fits 64 bits. -/
def push? (significand : Nat) (digit : Char) : Option Nat :=
  let next := 10 * significand + (digit.toNat - '0'.toNat)
  if next < UInt64.size then some next else none

/-- The significand of the digits before the point, with the number of digits that did not
fit.  Once a digit does not fit, no later one is kept. -/
def keepWhole : Nat → List Char → Nat × Nat
  | significand, [] => (significand, 0)
  | significand, digit :: digits =>
    match push? significand digit with
    | some next => keepWhole next digits
    | none => (significand, digits.length + 1)

/-- The significand with the digits after the point, with the number of digits that fit.
Once a digit does not fit, no later one is kept. -/
def keepFraction : Nat → List Char → Nat × Nat
  | significand, [] => (significand, 0)
  | significand, digit :: digits =>
    match push? significand digit with
    | some next =>
      let (last, kept) := keepFraction next digits
      (last, kept + 1)
    | none => (significand, 0)

/-- The double `x · 10 ^ exponent`.  Powers of ten beyond the largest double are divided by
in steps, at most `steps` of them; three turn every significand into zero. -/
def scale : Nat → Double → Int → Double
  | 0, _, _ => .zero false
  | steps + 1, x, exponent =>
    if x.isZero then x
    else if 308 < exponent then .infinite false
    else if 0 ≤ exponent then x.mul (.ofNat (Nat.pow 10 exponent.toNat))
    else if -308 ≤ exponent then x.div (.ofNat (Nat.pow 10 (-exponent).toNat))
    else scale steps (x.div (.ofNat (Nat.pow 10 308))) (exponent + 308)

/-- The power of ten of an exponent. -/
def Numeral.power (n : Numeral) : Int :=
  match n.exponent with
  | none => 0
  | some (negative, digits) => if negative then -(ofDigits digits : Int) else ofDigits digits

/-- The magnitude of a number as a double. -/
def Numeral.magnitude (n : Numeral) : Double :=
  let (whole, dropped) := keepWhole 0 n.whole
  let (significand, kept) := keepFraction whole (n.fraction.getD [])
  scale 4 (.ofNat significand) (n.power + dropped - kept)

/-- The value of a number as a double, unless it is infinite. -/
def Numeral.real? (n : Numeral) : Option Numeric :=
  let x := n.magnitude
  if x.isFinite then some (.real (if n.negative then x.negate else x)) else none

/-- The value of a number. -/
def Numeral.value? (n : Numeral) : Option Numeric :=
  let whole := ofDigits n.whole
  if n.fraction.isSome || n.exponent.isSome then n.real?
  else if !n.negative && whole < UInt64.size then some (.integer whole)
  else if n.negative && 0 < whole && 2 * whole ≤ UInt64.size then some (.integer (-(whole : Int)))
  else n.real?

/-- Reads a number for its value. -/
def readNumber : Reader Numeric := fun text => do
  let (numeral, rest) ← readNumeral .truncated text
  match numeral.value? with
  | some value => .ok (value, rest)
  | none => .error .malformed

/-- Skips a number, whatever its value; a number that the text breaks off is malformed. -/
def skipNumber (text : List Char) : Except Fault (List Char) :=
  (readNumeral .malformed text).map (·.2)

end SqlScribe.Json
