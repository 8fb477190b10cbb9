import Highlighter.Files.FileSystem
import Highlighter.Text.LineEnds

/-!
# Source files

A source is a file whose bytes are a text in UTF-8.  However its lines end, they are
read with line feeds.
-/

namespace Highlighter

/-- Why there is no source. -/
inductive Unreadable where
  | file (fault : FileFault)
  | encoding (fault : Utf8.Fault)
  deriving DecidableEq, Repr

/-- The message of a source that cannot be read. -/
def Unreadable.message (path : Path) : Unreadable → Text
  | file fault => fault.message path
  | encoding fault => fault.message

/-- The fault that leaves a source without a message about it: one of the path itself. -/
def Unreadable.pathFault? : Unreadable → Option FileFault
  | file fault => if fault.isSystemError then none else some fault
  | encoding _ => none

/-- The text of a source file. -/
def FileSystem.readSource (files : FileSystem) (path : Path) : Except Unreadable Text := do
  let bytes ← (files.read path).mapError .file
  let text ← (Utf8.decode bytes).mapError .encoding
  .ok text.lineEndsAsLineFeeds

end Highlighter
