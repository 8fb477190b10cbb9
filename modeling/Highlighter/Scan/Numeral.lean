import Highlighter.Text.Basic

/-!
# Decimal numerals

A numeral is a run of ASCII digits, then perhaps a point and more digits, then
perhaps an exponent with its own digits and an optional sign.  A point or an
exponent letter that no digit follows is not part of the numeral.
-/

namespace Highlighter.Numeral

/-- The number of ASCII digits at the start of a text. -/
def digitCount (text : Text) : Nat :=
  text.countWhile Char.isDigit

/-- The length of a point with its digits. -/
def fractionLength : Text → Nat
  | [] => 0
  | c :: rest =>
      if c = '.' then
        match digitCount rest with
        | 0 => 0
        | digits + 1 => digits + 2
      else 0

/-- The length of an optional sign with the digits after it, which must not be
missing. -/
def signedLength (text : Text) : Nat :=
  match text with
  | [] => 0
  | c :: rest =>
      if c = '+' || c = '-' then
        match digitCount rest with
        | 0 => 0
        | digits + 1 => digits + 2
      else digitCount text

/-- The length of an exponent. -/
def exponentLength : Text → Nat
  | [] => 0
  | c :: rest =>
      if c = 'e' || c = 'E' then
        match signedLength rest with
        | 0 => 0
        | length + 1 => length + 2
      else 0

/-- The length of the numeral at the start of a text, zero when there is none. -/
def length (text : Text) : Nat :=
  match digitCount text with
  | 0 => 0
  | whole =>
      let fraction := fractionLength (text.drop whole)
      whole + fraction + exponentLength (text.drop (whole + fraction))

end Highlighter.Numeral
