import Highlighter.Text.Basic

/-!
# Lines

Lines are told apart in two ways.  A source is split at its line feeds only, and has a last line
behind the last of them, which may be empty.  A reader of stored text lines takes every kind of
line break, and each line ends with its break; the end of the text is no line of its own.
-/

namespace Highlighter.Text

/-! ## Line feeds -/

theorem lines_of_unbroken {line : Text} (unbroken : '\n' ∉ line) : lines line = [line] := by
  induction line with
  | nil => rfl
  | cons c rest inductionHypothesis =>
      rw [List.mem_cons, not_or] at unbroken
      simp [lines, Ne.symm unbroken.1, inductionHypothesis unbroken.2]

/-- A line feed separates the lines before it from those behind it. -/
theorem lines_append (above below : Text) :
    lines (above ++ '\n' :: below) = lines above ++ lines below := by
  induction above with
  | nil => simp [lines]
  | cons c rest inductionHypothesis =>
      rw [List.cons_append, lines, lines, inductionHypothesis]
      split
      · rfl
      · cases later : lines rest with
        | nil => exact absurd later (lines_ne_nil rest)
        | cons line others => rfl

/-- A line ends at its first line feed. -/
theorem lines_append_lineFeed {line : Text} (unbroken : '\n' ∉ line) (rest : Text) :
    lines (line ++ '\n' :: rest) = line :: lines rest := by
  rw [lines_append, lines_of_unbroken unbroken, List.singleton_append]

/-- What holds of a single line, and of a text with one more line in front, holds of every
text. -/
@[elab_as_elim]
theorem inductionOnLines {motive : Text → Prop} (last : ∀ line, '\n' ∉ line → motive line)
    (broken : ∀ line rest, '\n' ∉ line → motive rest → motive (line ++ '\n' :: rest))
    (text : Text) : motive text := by
  by_cases present : '\n' ∈ text
  · obtain ⟨line, rest, split, unbroken⟩ := List.eq_append_cons_of_mem present
    rw [split]
    exact broken line rest unbroken (inductionOnLines last broken rest)
  · exact last text present
termination_by text.length
decreasing_by
  rw [split, List.length_append, List.length_cons]
  omega

/-- No line holds a line feed. -/
theorem lineFeed_not_mem_of_mem_lines {text line : Text} (member : line ∈ text.lines) :
    '\n' ∉ line := by
  induction text using inductionOnLines with
  | last only unbroken =>
      rw [lines_of_unbroken unbroken, List.mem_singleton] at member
      rw [member]
      exact unbroken
  | broken first rest unbroken inductionHypothesis =>
      rw [lines_append_lineFeed unbroken] at member
      rcases List.mem_cons.mp member with rfl | later
      · exact unbroken
      · exact inductionHypothesis later

/-- Lines that are joined by line feeds are the lines of the joined text. -/
theorem lines_intercalate {parts : List Text} (filled : parts ≠ [])
    (unbroken : ∀ part ∈ parts, '\n' ∉ part) : lines (['\n'].intercalate parts) = parts := by
  induction parts with
  | nil => contradiction
  | cons first later inductionHypothesis =>
      rw [List.forall_mem_cons] at unbroken
      cases later with
      | nil => simpa using lines_of_unbroken unbroken.1
      | cons second others =>
          rw [List.intercalate_cons_cons, List.append_assoc, List.singleton_append,
            lines_append_lineFeed unbroken.1,
            inductionHypothesis (by simp) unbroken.2]

/-- There is one line more than there are line feeds. -/
theorem length_lines (text : Text) : (lines text).length = text.count '\n' + 1 := by
  induction text using inductionOnLines with
  | last line unbroken =>
      rw [lines_of_unbroken unbroken, List.count_eq_zero.mpr unbroken, List.length_singleton]
  | broken line rest unbroken inductionHypothesis =>
      rw [lines_append_lineFeed unbroken, List.length_cons, inductionHypothesis,
        List.count_append, List.count_eq_zero.mpr unbroken, List.count_cons_self, Nat.zero_add]

/-- A character of joined texts is the mark between them or stands in one of them. -/
theorem mem_intercalate {mark c : Char} {parts : List Text}
    (member : c ∈ [mark].intercalate parts) : c = mark ∨ ∃ part ∈ parts, c ∈ part := by
  induction parts with
  | nil => simp at member
  | cons first later inductionHypothesis =>
      cases later with
      | nil => exact .inr ⟨first, by simp, by simpa using member⟩
      | cons second others =>
          rw [List.intercalate_cons_cons, List.mem_append, List.mem_append,
            List.mem_singleton] at member
          rcases member with (inside | same) | behind
          · exact .inr ⟨first, by simp, inside⟩
          · exact .inl same
          · rcases inductionHypothesis behind with same | ⟨part, held, inside⟩
            · exact .inl same
            · exact .inr ⟨part, List.mem_cons_of_mem _ held, inside⟩

/-! ## Line breaks of every kind -/

/-- A character that ends a line: line feed, carriage return, the tabulations and separators
that do, and the line ends of Unicode. -/
def isLineBreak (c : Char) : Bool :=
  c == '\n' || c == '\r' || c == '\x0b' || c == '\x0c' || c == '\x1c' || c == '\x1d' ||
    c == '\x1e' || c == '\u0085' || c == '\u2028' || c == '\u2029'

/-- The lines of a text without their breaks.  A line feed that follows a carriage return
belongs to the same break; `returned` tells whether one stands before the text. -/
def brokenLinesFrom (returned : Bool) : Text → List Text
  | [] => []
  | c :: rest =>
      if returned && c == '\n' then brokenLinesFrom false rest
      else if isLineBreak c then [] :: brokenLinesFrom (c == '\r') rest
      else
        match brokenLinesFrom false rest with
        | [] => [[c]]
        | line :: later => (c :: line) :: later

/-- The lines of a text without their breaks. -/
def brokenLines (text : Text) : List Text :=
  brokenLinesFrom false text

/-- A line without breaks ends at the line feed behind it. -/
theorem brokenLines_append_lineFeed {line : Text} (unbroken : ∀ c ∈ line, isLineBreak c = false)
    (rest : Text) : brokenLines (line ++ '\n' :: rest) = line :: brokenLines rest := by
  induction line with
  | nil => rfl
  | cons c others inductionHypothesis =>
      rw [List.forall_mem_cons] at unbroken
      have later := inductionHypothesis unbroken.2
      unfold brokenLines at later ⊢
      simp [brokenLinesFrom, unbroken.1, later]

/-- Lines that each have a line feed behind them come before the lines of the rest. -/
theorem brokenLines_flatMap_append {α : Type} {items : List α} {lineOf : α → Text}
    (unbroken : ∀ item ∈ items, ∀ c ∈ lineOf item, isLineBreak c = false) (rest : Text) :
    brokenLines ((items.flatMap fun item => lineOf item ++ ['\n']) ++ rest) =
      items.map lineOf ++ brokenLines rest := by
  induction items with
  | nil => rfl
  | cons item later inductionHypothesis =>
      rw [List.forall_mem_cons] at unbroken
      rw [List.flatMap_cons, List.append_assoc, List.append_assoc, List.singleton_append,
        brokenLines_append_lineFeed unbroken.1, inductionHypothesis unbroken.2, List.map_cons,
        List.cons_append]

example : brokenLines "a\r\n\nb\u2028".toList = [['a'], [], ['b']] := by decide

end Highlighter.Text
