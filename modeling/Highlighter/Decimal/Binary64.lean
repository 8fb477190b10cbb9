/-!
# Binary floating-point numbers of 64 bits

A finite number is a mantissa below 2^53 times a power of two from 2^-1074 on; the
mantissa has its full 53 bits unless the power is the least one.  A decimal is read
as the nearest such number, and as the one with the even mantissa when it lies
halfway between two.  All arithmetic is exact.
-/

namespace Highlighter

/-- A binary floating-point number of 64 bits. -/
inductive Binary64 where
  | nan
  | infinite (negative : Bool)
  /-- The mantissa times two to the exponent. -/
  | finite (negative : Bool) (mantissa : Nat) (exponent : Int)
  deriving DecidableEq, Repr

namespace Binary64

/-- The least exponent. -/
def leastExponent : Int :=
  -1074

/-- The greatest exponent. -/
def greatestExponent : Int :=
  971

/-- A quotient rounded to the nearest whole number, and to the even one halfway. -/
def roundedQuotient (numerator denominator : Nat) : Nat :=
  let whole := numerator / denominator
  let twice := 2 * (numerator % denominator)
  if twice < denominator then whole
  else if denominator < twice then whole + 1
  else whole + whole % 2

/-- A fraction divided by a power of two, as a fraction. -/
def scaled (numerator denominator : Nat) (exponent : Int) : Nat × Nat :=
  (numerator * Nat.pow 2 (-exponent).toNat, denominator * Nat.pow 2 exponent.toNat)

/-- The exponent at which the mantissa of a positive fraction has 53 bits, or the least
exponent if that is larger. -/
def exponentOf (numerator denominator : Nat) : Int :=
  let guess := (numerator.log2 : Int) - denominator.log2 - 52
  let (top, bottom) := scaled numerator denominator guess
  let fitting := if top / bottom < Nat.pow 2 52 then guess - 1 else guess
  max leastExponent fitting

/-- The number nearest to a positive fraction. -/
def ofFraction (negative : Bool) (numerator denominator : Nat) : Binary64 :=
  let exponent := exponentOf numerator denominator
  let (top, bottom) := scaled numerator denominator exponent
  let mantissa := roundedQuotient top bottom
  let (mantissa, exponent) :=
    if mantissa = Nat.pow 2 53 then (Nat.pow 2 52, exponent + 1) else (mantissa, exponent)
  if greatestExponent < exponent then .infinite negative
  else .finite negative mantissa exponent

/-- How many decimal digits a number has. -/
def decimalLength (value : Nat) : Nat :=
  if value < 10 then 1 else decimalLength (value / 10) + 1

/-- The number nearest to `digits` times ten to the power `exponent`.  A decimal far
beyond the largest or below the smallest number is not multiplied out. -/
def ofDecimal (negative : Bool) (digits : Nat) (exponent : Int) : Binary64 :=
  if digits = 0 then .finite negative 0 leastExponent
  else
    let magnitude := (decimalLength digits : Int) + exponent
    if 400 < magnitude then .infinite negative
    else if magnitude < -400 then .finite negative 0 leastExponent
    else
      ofFraction negative (digits * Nat.pow 10 exponent.toNat) (Nat.pow 10 (-exponent).toNat)

end Binary64

end Highlighter
