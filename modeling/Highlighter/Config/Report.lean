import Highlighter.Files.Path
import Highlighter.Text.Numerals

/-!
# Reports of configuration faults

A report is a message with the file it is about and the line in it, as far as they
are known.  The line is only shown together with the file.
-/

namespace Highlighter.Config

/-- What is shown about a fault. -/
structure Report where
  message : Text
  path : Option Path
  line : Option Int
  deriving Repr

namespace Report

/-- The file and line of a report. -/
def location (path : Path) (line : Option Int) : Text :=
  path.toText.shown ++
    match line with
    | none => []
    | some line => ':' :: Text.signedDecimal line

/-- The text of a report. -/
def format (report : Report) : Text :=
  "error: ".toList ++ report.message ++
    match report.path with
    | none => []
    | some path => "\n  --> ".toList ++ location path report.line

end Report

end Highlighter.Config
