import Highlighter.Text.Basic

/-!
# Writing whole numbers

The digits of a whole number in a given base, most significant first, and the value of
a digit.
-/

namespace Highlighter

/-- The value of a digit of base sixteen. -/
def hexValue? (c : Char) : Option Nat :=
  if c.isDigit then some (c.toNat - 0x30)
  else if 'a' ≤ c && c ≤ 'f' then some (c.toNat - 0x57)
  else if 'A' ≤ c && c ≤ 'F' then some (c.toNat - 0x37)
  else none

namespace Text

/-- The digit of a value below sixteen, with small letters from ten on. -/
def smallDigit (value : Nat) : Char :=
  Char.ofNat (if value < 10 then 0x30 + value else 0x57 + value)

/-- The digit of a value below sixteen, with capitals from ten on. -/
def capitalDigit (value : Nat) : Char :=
  Char.ofNat (if value < 10 then 0x30 + value else 0x37 + value)

/-- A number in base sixteen with at least `width` small digits. -/
def hexadecimal : Nat → Nat → Text
  | 0, _ => []
  | width + 1, value => hexadecimal width (value / 16) ++ [smallDigit (value % 16)]

/-- The digits of a number in base sixteen, in capitals, without leading zeros. -/
def capitalHexadecimal (value : Nat) : Text :=
  if value < 16 then [capitalDigit value]
  else capitalHexadecimal (value / 16) ++ [capitalDigit (value % 16)]

/-- The digits of a number in base ten, without leading zeros. -/
def decimal (value : Nat) : Text :=
  if value < 10 then [smallDigit value]
  else decimal (value / 10) ++ [smallDigit (value % 10)]

/-- A number in base ten, with a minus sign if it is negative. -/
def signedDecimal (value : Int) : Text :=
  if value < 0 then '-' :: decimal value.natAbs else decimal value.natAbs

end Text

end Highlighter
