import Highlighter.Text.Numerals
import Highlighter.Text.Printable

/-!
# Quoted literals

A literal shows any text on one line of printable characters.  It stands between
apostrophes, or between double quotes if the text holds an apostrophe and no double
quote.  The quote it stands between and the backslash are escaped by a backslash;
line feed, carriage return and tab have an escape letter, and any other character
that is not printable is written with its code point in two, four or eight digits.
-/

namespace Highlighter.Quoted

/-- The quote around the literal of a text. -/
def quoteFor (text : Text) : Char :=
  if '\x27' ∈ text ∧ '\x22' ∉ text then '\x22' else '\x27'

/-- One character of a literal between the given quotes. -/
def encodeChar (quote c : Char) : Text :=
  if c = quote ∨ c = '\\' then ['\\', c]
  else if c = '\n' then ['\\', 'n']
  else if c = '\r' then ['\\', 'r']
  else if c = '\t' then ['\\', 't']
  else if isPrintable c then [c]
  else if c.toNat < 0x100 then '\\' :: 'x' :: Text.hexadecimal 2 c.toNat
  else if c.toNat < 0x10000 then '\\' :: 'u' :: Text.hexadecimal 4 c.toNat
  else '\\' :: 'U' :: Text.hexadecimal 8 c.toNat

/-- The literal of a text. -/
def encode (text : Text) : Text :=
  let quote := quoteFor text
  quote :: text.flatMap (encodeChar quote) ++ [quote]

/-- The literal of a string. -/
def literal (text : String) : Text :=
  encode text.toList

end Highlighter.Quoted
