import Highlighter.Decimal.Binary64
import Highlighter.Text.Numerals

/-!
# The shortest decimal of a floating-point number

Among the decimals that read back as a given number, the shortest one has the fewest
digits and, of those, lies nearest to the number.  It is found by trying one digit,
two digits and so on: if any decimal with so many digits reads back, then so does
one of the two neighbours of the number on that grid.

The written form is positional when the decimal point falls within or near the
digits, and has an exponent of at least two digits otherwise.
-/

namespace Highlighter.Binary64

/-- A positive decimal: `digits` times ten to the power `exponent`. -/
structure Decimal where
  digits : Nat
  exponent : Int
  deriving DecidableEq, Repr

/-- A fraction divided by a power of ten, as a fraction. -/
def scaledByTen (numerator denominator : Nat) (exponent : Int) : Nat × Nat :=
  (numerator * Nat.pow 10 (-exponent).toNat, denominator * Nat.pow 10 exponent.toNat)

/-- A positive finite number in quarters of its last place: the number itself and the
two ends of the interval that is rounded to it, over a common denominator. -/
structure Interval where
  low : Nat
  value : Nat
  high : Nat
  denominator : Nat
  /-- Whether the ends belong to the interval. -/
  closed : Bool

/-- The interval of the reals that are rounded to a number. -/
def intervalOf (mantissa : Nat) (exponent : Int) : Interval :=
  let unit := Nat.pow 2 exponent.toNat
  let below := if mantissa = Nat.pow 2 52 ∧ leastExponent < exponent then 1 else 2
  { low := (4 * mantissa - below) * unit
    value := 4 * mantissa * unit
    high := (4 * mantissa + 2) * unit
    denominator := 4 * Nat.pow 2 (-exponent).toNat
    closed := mantissa % 2 = 0 }

/-- Whether `digits` times ten to the power `exponent` lies in an interval. -/
def Interval.holds (interval : Interval) (digits : Nat) (exponent : Int) : Bool :=
  let point := digits * interval.denominator * Nat.pow 10 exponent.toNat
  let scale := Nat.pow 10 (-exponent).toNat
  let low := interval.low * scale
  let high := interval.high * scale
  (low < point && point < high) || (interval.closed && (point == low || point == high))

/-- The number of digits in front of the decimal point; zero or less for a number below
one tenth. -/
def pointPosition (numerator denominator : Nat) : Int :=
  let guess := (decimalLength numerator : Int) - decimalLength denominator
  let (top, bottom) := scaledByTen numerator denominator guess
  if bottom ≤ top then guess + 1 else guess

/-- The neighbour of a number on the grid of decimals with the given exponent that reads
back, the nearer one if both do. -/
def neighbour? (interval : Interval) (exponent : Int) : Option Nat :=
  let (top, bottom) := scaledByTen interval.value interval.denominator exponent
  let floor := top / bottom
  match interval.holds floor exponent && floor != 0, interval.holds (floor + 1) exponent with
  | true, true => some (roundedQuotient top bottom)
  | true, false => some floor
  | false, true => some (floor + 1)
  | false, false => none

/-- Try grids with more and more digits. -/
def shortestFrom (interval : Interval) (point : Int) : Nat → Nat → Decimal
  | 0, digits => ⟨0, point - digits⟩
  | fuel + 1, digits =>
      match neighbour? interval (point - digits) with
      | some decimal => ⟨decimal, point - digits⟩
      | none => shortestFrom interval point fuel (digits + 1)

/-- The shortest decimal of a positive finite number; seventeen digits always suffice. -/
def shortest (mantissa : Nat) (exponent : Int) : Decimal :=
  let interval := intervalOf mantissa exponent
  shortestFrom interval (pointPosition interval.value interval.denominator) 17 1

/-- A text without the zeros at its end. -/
def withoutEndZeros (digits : Text) : Text :=
  (digits.reverse.dropWhile (· == '0')).reverse

/-- An exponent with its sign and at least two digits. -/
def exponentText (exponent : Int) : Text :=
  let digits := Text.decimal exponent.natAbs
  (if exponent < 0 then '-' else '+') ::
    (if digits.length < 2 then '0' :: digits else digits)

/-- Digits with the decimal point after the first `point` of them.  The form is
positional when the point stands between three zeros in front of the digits and the
sixteenth place. -/
def written (digits : Text) (point : Int) : Text :=
  if -4 < point ∧ point ≤ 16 then
    if point ≤ 0 then
      ['0', '.'] ++ List.replicate (-point).toNat '0' ++ digits
    else if (digits.length : Int) ≤ point then
      digits ++ List.replicate (point.toNat - digits.length) '0' ++ ['.', '0']
    else digits.take point.toNat ++ '.' :: digits.drop point.toNat
  else
    digits.take 1 ++ (if digits.length < 2 then [] else '.' :: digits.drop 1) ++
      'e' :: exponentText (point - 1)

/-- The shortest text that reads back as a number. -/
def toText : Binary64 → Text
  | nan => "nan".toList
  | infinite negative => (if negative then ['-'] else []) ++ "inf".toList
  | finite negative mantissa exponent =>
      (if negative then ['-'] else []) ++
        if mantissa = 0 then "0.0".toList
        else
          let decimal := shortest mantissa exponent
          let digits := Text.decimal decimal.digits
          written (withoutEndZeros digits) (decimal.exponent + digits.length)

end Highlighter.Binary64
