import Highlighter.Text.Basic

/-!
# Positions in a text

A position has a line and a column, both counted from one, and an offset counted
from zero.  `Position.after` reads the position off the text that precedes it;
`Position.advance` moves a known position over one more slice without looking at
what came before.  The two agree: `Position.advance_after`.
-/

namespace Highlighter

/-- A place between two characters of a text. -/
structure Position where
  /-- Line, counted from one. -/
  line : Nat
  /-- Column, counted from one, in code points. -/
  column : Nat
  /-- Code points before the place. -/
  offset : Nat
  deriving DecidableEq, Repr

namespace Text

/-- How many characters follow the last line feed of a text. -/
def lastLineLength (text : Text) : Nat :=
  Text.countWhile (· != '\n') text.reverse

end Text

namespace Position

/-- The start of every text. -/
def start : Position :=
  ⟨1, 1, 0⟩

/-- The position that a text reaches: one line more for each line feed, and the
column counted from the last of them. -/
def after (text : Text) : Position :=
  ⟨text.count '\n' + 1, text.lastLineLength + 1, text.length⟩

/-- Move over a slice.  A slice with a line feed sets the column anew; any other
slice adds its length. -/
def advance (position : Position) (slice : Text) : Position where
  line := position.line + slice.count '\n'
  column :=
    if slice.contains '\n' then slice.lastLineLength + 1
    else position.column + slice.length
  offset := position.offset + slice.length

@[simp]
theorem after_nil : after [] = start :=
  rfl

@[simp]
theorem advance_nil (position : Position) : position.advance [] = position := by
  simp [advance]

/-- Advancing from where one text ends over a second text reaches the position
after both. -/
theorem advance_after (before slice : Text) :
    (after before).advance slice = after (before ++ slice) := by
  have lines : before.count '\n' + 1 + slice.count '\n' =
      before.count '\n' + slice.count '\n' + 1 := by omega
  simp only [advance, after, List.count_append, List.length_append, lines,
    Position.mk.injEq, true_and, and_true]
  simp only [Text.lastLineLength, Text.countWhile, List.reverse_append,
    List.takeWhile_append]
  by_cases broken : '\n' ∈ slice
  · rw [if_pos (by simpa using broken), if_neg]
    intro whole
    have same : slice.reverse.takeWhile (· != '\n') = slice.reverse :=
      (List.takeWhile_prefix _).eq_of_length whole
    have kept : (slice.reverse.takeWhile (· != '\n')).all (· != '\n') = true :=
      List.all_takeWhile
    rw [same, List.all_eq_true] at kept
    have refused := kept '\n' (by simpa using broken)
    simp at refused
  · have same : slice.reverse.takeWhile (· != '\n') = slice.reverse := by
      have passes : ∀ c ∈ slice.reverse, (c != '\n') = true := by
        intro c member
        simp only [bne_iff_ne, ne_eq]
        rintro rfl
        exact broken (by simpa using member)
      have spared : (slice.reverse ++ []).takeWhile (· != '\n') = slice.reverse ++ [] :=
        List.takeWhile_append_of_pos passes
      simpa using spared
    rw [if_neg (by simpa using broken), if_pos (by rw [same])]
    simp only [List.length_append, List.length_reverse]
    omega

end Position

end Highlighter
