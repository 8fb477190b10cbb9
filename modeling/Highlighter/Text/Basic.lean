/-!
# Texts and their ASCII character classes

A text is the list of its Unicode scalar values, so offsets and lengths count code
points and a slice of a text is `take` and `drop`.  Surrogates are code points too, but
no characters; texts that may hold them are loose texts.  The two character classes
of the scanners are ASCII only: a letter outside ASCII is never part of a word,
and a blank outside ASCII never separates two.

The searches below are all that the scanners need besides `takeWhile`; each is
a structural recursion on the text.
-/

namespace Highlighter

/-- A text is the list of its Unicode scalar values. -/
abbrev Text := List Char

/-- An ASCII letter, an ASCII digit or the underscore. -/
def isWordChar (c : Char) : Bool :=
  c.isAlphanum || c == '_'

/-- One of the six ASCII blanks: space, tab, line feed, carriage return, form
feed and vertical tab. -/
def isAsciiBlank (c : Char) : Bool :=
  c == ' ' || c == '\t' || c == '\n' || c == '\r' || c == '\x0c' || c == '\x0b'

namespace Text

/-- How many characters at the start of a text belong to a class. -/
def countWhile (belongs : Char → Bool) (text : Text) : Nat :=
  (text.takeWhile belongs).length

/-- How many characters stand before the first line feed, or before the end of
a text without one. -/
def lineLength (text : Text) : Nat :=
  text.countWhile (· != '\n')

/-- Whether `part` occurs somewhere in a text. -/
def occursIn (part : Text) : Text → Bool
  | [] => part.isEmpty
  | c :: rest => part.isPrefixOf (c :: rest) || occursIn part rest

/-- The number of characters up to the end of the first occurrence of `part`. -/
def lengthThrough? (part : Text) : Text → Option Nat
  | [] => if part.isEmpty then some 0 else none
  | c :: rest =>
      if part.isPrefixOf (c :: rest) then some part.length
      else (lengthThrough? part rest).map (· + 1)

/-- Split a text at every line feed.  There is always at least one line, and no
line holds a line feed. -/
def lines : Text → List Text
  | [] => [[]]
  | c :: rest =>
      if c = '\n' then [] :: lines rest
      else
        match lines rest with
        | [] => [[c]]
        | line :: later => (c :: line) :: later

@[simp]
theorem lines_nil : lines [] = [[]] :=
  rfl

theorem lines_ne_nil (text : Text) : text.lines ≠ [] := by
  cases text with
  | nil => simp
  | cons c rest =>
      unfold lines
      split
      · simp
      · split <;> simp

/-- Joining the lines of a text with line feeds gives the text back. -/
theorem intercalate_lines (text : Text) : ['\n'].intercalate text.lines = text := by
  induction text with
  | nil => rfl
  | cons c rest inductionHypothesis =>
      unfold lines
      have some_line := lines_ne_nil rest
      split
      · rename_i broken
        cases later : lines rest with
        | nil => exact absurd later some_line
        | cons line others =>
            rw [later] at inductionHypothesis
            simp [List.intercalate, broken, ← inductionHypothesis]
      · cases later : lines rest with
        | nil => exact absurd later some_line
        | cons line others =>
            rw [later] at inductionHypothesis
            cases others <;> simp_all [List.intercalate]

/-- What stands before and after the first occurrence of a character. -/
def splitAt? (mark : Char) : Text → Option (Text × Text)
  | [] => none
  | c :: rest =>
      if c = mark then some ([], rest)
      else (splitAt? mark rest).map fun (before, after) => (c :: before, after)

end Text

end Highlighter
