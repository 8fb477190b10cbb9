import Highlighter.Text.Basic

/-!
# Blank characters and trimming

The blanks of this module are the white space of the Unicode standard together
with the four information separators U+001C to U+001F.  They are what trimming
removes; the zero-width space U+200B and the byte-order mark U+FEFF are not
among them.
-/

namespace Highlighter

/-- White space of the Unicode standard, or an information separator. -/
def isBlank (c : Char) : Bool :=
  let code := c.toNat
  (9 ≤ code && code ≤ 13) || (0x1C ≤ code && code ≤ 0x20) || code == 0x85 ||
    code == 0xA0 || code == 0x1680 || (0x2000 ≤ code && code ≤ 0x200A) ||
    code == 0x2028 || code == 0x2029 || code == 0x202F || code == 0x205F ||
    code == 0x3000

/-- Every ASCII blank is a blank. -/
theorem isBlank_of_isAsciiBlank {c : Char} (blank : isAsciiBlank c = true) :
    isBlank c = true := by
  simp only [isAsciiBlank, Bool.or_eq_true, beq_iff_eq] at blank
  rcases blank with ((((rfl | rfl) | rfl) | rfl) | rfl) | rfl <;> decide

namespace Text

/-- A text without the blanks at its start. -/
def trimLeft (text : Text) : Text :=
  text.dropWhile isBlank

/-- A text without the blanks at its end. -/
def trimRight (text : Text) : Text :=
  (text.reverse.dropWhile isBlank).reverse

/-- A text without the blanks at its start and at its end. -/
def trim (text : Text) : Text :=
  text.trimLeft.trimRight

/-- A text cut into the blanks at its start, the part between, and the blanks at
its end.  A text of blanks only is all start. -/
def padding (text : Text) : Text × Text × Text :=
  if text.trim.isEmpty then (text, [], [])
  else
    (text.takeWhile isBlank, text.trim, (text.reverse.takeWhile isBlank).reverse)

end Text

end Highlighter
