import SqlScribe.Number.Double

/-!
# The shortest decimal text of a double

Of all decimal numbers that round to a given double, those with the fewest digits are
looked for, and of these the one nearest to the double: `shortest` finds it.  The decimals
that round to a double form an interval around it, which contains its ends when the mantissa
is even; for each count of digits only the two neighbours of the double on the grid of that
count can be the nearest, so testing these in ascending order of the count is enough.

A `Layout` says how the digits are then written.  `plain` never uses an exponent and writes
whole numbers without a point; `marked` always shows that the number is not a whole-number
literal, by a point or by an exponent.
-/

namespace SqlScribe.Number

/-- Which of two equally near decimals is taken. -/
inductive Tie where
  /-- The larger one. -/
  | up
  /-- The one whose last digit is even. -/
  | even
  deriving Repr, DecidableEq

/-- The number `digits · 10 ^ exponent`. -/
structure Scaled where
  /-- The digits, read as a whole number. -/
  digits : Nat
  /-- The power of ten that the digits are scaled by. -/
  exponent : Int
  deriving Repr, DecidableEq

/-- The interval of the numbers that round to a double, with the double in it, all three as
multiples of `unit / scale`. -/
structure Interval where
  /-- The lower end. -/
  low : Nat
  /-- The double itself. -/
  value : Nat
  /-- The upper end. -/
  high : Nat
  /-- Whether the ends belong to the interval. -/
  closed : Bool
  /-- The numerator of the unit. -/
  unit : Nat
  /-- The denominator of the unit. -/
  scale : Nat

/-- The interval of the numbers that round to `mantissa · 2 ^ exponent`.  Below a power of
two the doubles lie twice as close, so the lower end is nearer there. -/
def Interval.around (mantissa : Nat) (exponent : Int) : Interval where
  low := 4 * mantissa - (if mantissa = Double.leastNormal then 1 else 2)
  value := 4 * mantissa
  high := 4 * mantissa + 2
  closed := mantissa % 2 = 0
  unit := Nat.pow 2 (exponent - 2).toNat
  scale := Nat.pow 2 (2 - exponent).toNat

/-- Whether a decimal number lies in the interval. -/
def Interval.contains (i : Interval) (d : Scaled) : Bool :=
  let point := d.digits * Nat.pow 10 d.exponent.toNat * i.scale
  let unit := i.unit * Nat.pow 10 (-d.exponent).toNat
  if i.closed then i.low * unit ≤ point && point ≤ i.high * unit
  else i.low * unit < point && point < i.high * unit

/-- The position of the leading digit of a positive fraction: the fraction is at least
`10 ^ (order - 1)` and less than `10 ^ order`. -/
def decimalOrder (num den : Nat) : Int :=
  if den ≤ num then digitCount (num / den)
  else
    let count := digitCount (den / num)
    if den ≤ num * Nat.pow 10 (count - 1) then 2 - (count : Int) else 1 - (count : Int)

/-- The decimal number with the given count of digits that lies in the interval and is
nearest to its double, if there is one. -/
def Interval.nearest? (i : Interval) (tie : Tie) (order : Int) (count : Nat) : Option Scaled :=
  let exponent := order - count
  let num := i.value * i.unit * Nat.pow 10 (-exponent).toNat
  let den := i.scale * Nat.pow 10 exponent.toNat
  let below : Scaled := ⟨num / den, exponent⟩
  let above : Scaled := ⟨num / den + 1, exponent⟩
  match i.contains below, i.contains above with
  | true, false => some below
  | false, true => some above
  | true, true =>
    let remainder := num % den
    if 2 * remainder < den then some below
    else if den < 2 * remainder then some above
    else
      match tie with
      | .up => some above
      | .even => some (if below.digits % 2 = 0 then below else above)
  | false, false => none

/-- The same number without a zero as its last digit. -/
def Scaled.dropZero (d : Scaled) : Scaled :=
  if d.digits % 10 = 0 then ⟨d.digits / 10, d.exponent + 1⟩ else d

/-- The decimal number with the fewest digits that rounds to `mantissa · 2 ^ exponent`, and
of these the nearest.  Seventeen digits are always enough. -/
def shortest (tie : Tie) (mantissa : Nat) (exponent : Int) : Scaled :=
  let interval := Interval.around mantissa exponent
  let order := decimalOrder (interval.value * interval.unit) interval.scale
  match (List.range' 1 17).findSome? (interval.nearest? tie order) with
  | some d => d.dropZero
  | none => ⟨0, 0⟩

/-- How the digits of a double are written. -/
structure Layout where
  /-- Which of two equally near decimals is taken. -/
  tie : Tie
  /-- The least and the greatest order of the numbers that are written without an exponent;
  without bounds, all are. -/
  positional : Option (Int × Int)
  /-- Whether a whole number written without an exponent ends in a point and a zero. -/
  keepsPoint : Bool
  deriving Repr, DecidableEq

/-- A run of zeros. -/
def zeros (count : Nat) : String :=
  String.ofList (List.replicate count '0')

/-- Digits around a decimal point, without an exponent. -/
def Layout.writePositional (layout : Layout) (d : Scaled) : String :=
  let digits := Nat.toDigits 10 d.digits
  if 0 ≤ d.exponent then
    String.ofList digits ++ zeros d.exponent.toNat ++ (if layout.keepsPoint then ".0" else "")
  else
    let places := (-d.exponent).toNat
    let padded := List.replicate (places + 1 - digits.length) '0' ++ digits
    let whole := padded.length - places
    String.ofList (padded.take whole) ++ "." ++ String.ofList (padded.drop whole)

/-- Digits with a point after the first, and an exponent with its sign. -/
def writeScientific (d : Scaled) : String :=
  let digits := Nat.toDigits 10 d.digits
  let power := d.exponent + digits.length - 1
  String.ofList (digits.take 1)
    ++ (if digits.length = 1 then "" else "." ++ String.ofList (digits.drop 1))
    ++ (if power < 0 then "e-" else "e+")
    ++ toString power.natAbs

/-- The text of a positive double. -/
def Layout.writeMagnitude (layout : Layout) (scale : Double.Scale) (fraction : Double.Fraction) :
    String :=
  let mantissa := Double.mantissa scale fraction
  let d := if mantissa = 0 then ⟨0, 0⟩ else shortest layout.tie mantissa (Double.exponent scale)
  let order := d.exponent + digitCount d.digits
  match layout.positional with
  | some (least, greatest) =>
    if mantissa = 0 || (least ≤ order && order ≤ greatest) then layout.writePositional d
    else writeScientific d
  | none => layout.writePositional d

/-- The text of a double. -/
def Layout.write (layout : Layout) : Double → String
  | .nan => "NaN"
  | .infinite negative => if negative then "-inf" else "inf"
  | .finite negative scale fraction =>
    (if negative then "-" else "") ++ layout.writeMagnitude scale fraction

/-- All digits are written out, and a whole number has no point. -/
def Layout.plain : Layout where
  tie := .up
  positional := none
  keepsPoint := false

/-- Numbers from `0.00001` up to sixteen digits before the point are written without an
exponent, and whole numbers among them with a zero after the point. -/
def Layout.marked : Layout where
  tie := .even
  positional := some (-4, 16)
  keepsPoint := true

end SqlScribe.Number
