import SqlScribe.Number.Decimal

/-!
# Double-precision numbers

`Double` is the set of binary numbers of 64 bits: a finite one has a sign, an exponent field
and 52 bits of fraction, so that two of them are equal exactly when they are the same
number with the same sign of zero.  Arithmetic is exact on fractions of natural numbers and
rounds once, to the nearest double and to the even one of two that are equally near;
`Double.ofRatio` is that rounding.
-/

namespace SqlScribe.Number

/-- The values of the exponent field of a finite double. -/
abbrev Double.Scale : Type :=
  Fin 2047

/-- The values of the fraction field, of 52 bits. -/
abbrev Double.Fraction : Type :=
  Fin 0x10000000000000

/-- A binary number of 64 bits. -/
inductive Double where
  /-- Not a number. -/
  | nan
  /-- An infinity. -/
  | infinite (negative : Bool)
  /-- A finite number, by its exponent field and its fraction field. -/
  | finite (negative : Bool) (scale : Double.Scale) (fraction : Double.Fraction)
  deriving Repr, DecidableEq

/-- The whole number nearest to a fraction, and the even one of two equally near. -/
def roundToEven (num den : Nat) : Nat :=
  let quotient := num / den
  let remainder := num % den
  if 2 * remainder < den then quotient
  else if den < 2 * remainder then quotient + 1
  else quotient + quotient % 2

/-- The largest power of two that is at most a positive fraction, by its exponent. -/
def binaryOrder (num den : Nat) : Int :=
  let guess : Int := (num.log2 : Int) - den.log2
  if den * Nat.pow 2 guess.toNat ≤ num * Nat.pow 2 (-guess).toNat then guess else guess - 1

namespace Double

/-- A zero of the given sign. -/
def zero (negative : Bool) : Double :=
  .finite negative 0 0

/-- The least mantissa of a double with all its bits, two to the power of 52. -/
def leastNormal : Nat :=
  0x10000000000000

/-- The whole number of which a finite double is a multiple by a power of two. -/
def mantissa (scale : Scale) (fraction : Fraction) : Nat :=
  if scale.val = 0 then fraction.val else leastNormal + fraction.val

/-- The power of two by which a finite double multiplies its mantissa. -/
def exponent (scale : Scale) : Int :=
  max (scale.val : Int) 1 - 1075

/-- The double `± mantissa · 2 ^ exponent`, for a mantissa of at most 53 bits, or of exactly
`2 ^ 53`. -/
def ofMantissa (negative : Bool) (mantissa : Nat) (exponent : Int) : Double :=
  if mantissa < leastNormal then .finite negative 0 (Fin.ofNat _ mantissa)
  else
    let scale := if mantissa = 2 * leastNormal then exponent + 1076 else exponent + 1075
    if h : scale.toNat < 2047 then
      .finite negative ⟨scale.toNat, h⟩ (Fin.ofNat _ mantissa)
    else .infinite negative

/-- The double nearest to `± num / den`. -/
def ofRatio (negative : Bool) (num den : Nat) : Double :=
  if num = 0 then zero negative
  else
    let exponent := max (binaryOrder num den - 52) (-1074)
    ofMantissa negative
      (roundToEven (num * Nat.pow 2 (-exponent).toNat) (den * Nat.pow 2 exponent.toNat)) exponent

/-- The double nearest to a natural number. -/
def ofNat (n : Nat) : Double :=
  ofRatio false n 1

/-- The double nearest to a decimal number. -/
def ofDecimal (d : Decimal) : Double :=
  if d.overflows then .infinite d.negative
  else if d.significand = 0 || d.order < -330 then zero d.negative
  else ofRatio d.negative (d.significand * Nat.pow 10 d.exponent.toNat)
    (Nat.pow 10 (-d.exponent).toNat)

/-- The magnitude of a finite double as a fraction. -/
def ratio (scale : Scale) (fraction : Fraction) : Nat × Nat :=
  (mantissa scale fraction * Nat.pow 2 (exponent scale).toNat,
    Nat.pow 2 (-exponent scale).toNat)

/-- The double with the other sign. -/
def negate : Double → Double
  | nan => nan
  | infinite negative => infinite !negative
  | finite negative scale fraction => finite (!negative) scale fraction

/-- Whether a double is neither infinite nor not a number. -/
def isFinite : Double → Bool
  | finite .. => true
  | _ => false

/-- Whether a double is one of the two zeros. -/
def isZero : Double → Bool
  | finite _ scale fraction => scale.val = 0 && fraction.val = 0
  | _ => false

/-- The product of two finite doubles, rounded; anything else has no product here. -/
def mul : Double → Double → Double
  | finite s k f, finite s' k' f' =>
    let (num, den) := ratio k f
    let (num', den') := ratio k' f'
    ofRatio (s != s') (num * num') (den * den')
  | _, _ => nan

/-- The quotient of a finite double and a finite double other than zero, rounded; anything
else has no quotient here. -/
def div : Double → Double → Double
  | finite s k f, finite s' k' f' =>
    let (num, den) := ratio k f
    let (num', den') := ratio k' f'
    if num' = 0 then nan else ofRatio (s != s') (num * den') (den * num')
  | _, _ => nan

end Double

end SqlScribe.Number
