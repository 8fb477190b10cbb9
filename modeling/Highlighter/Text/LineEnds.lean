import Highlighter.Text.Basic

/-!
# Line ends

Lines of stored texts end with a line feed, with a carriage return and a line feed, or
with a carriage return alone.  Sources are read with all three as line feeds, and
documents with the pair alone.
-/

namespace Highlighter.Text

/-- A text with a line feed for each carriage return that a line feed follows, together
with it. -/
def pairsAsLineFeeds : Text → Text
  | [] => []
  | [c] => [c]
  | c :: d :: rest =>
      if c = '\r' ∧ d = '\n' then '\n' :: pairsAsLineFeeds rest
      else c :: pairsAsLineFeeds (d :: rest)

/-- A text with line feeds for all three line ends. -/
def lineEndsAsLineFeeds (text : Text) : Text :=
  text.pairsAsLineFeeds.map fun c => if c = '\r' then '\n' else c

end Highlighter.Text
