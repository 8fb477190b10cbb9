import Highlighter.Files.FileSystem
import Highlighter.Theme
import Highlighter.Toml.Fault

/-!
# Failures

A run of the command line reports what is wrong with its configuration, its input and
its output, and ends with an exit code.  A few causes are none of these; they break the
run off without an exit code.
-/

namespace Highlighter

/-- Why a run breaks off. -/
inductive Failure where
  /-- A file that cannot be opened, where that is not reported. -/
  | file (path : Path) (fault : FileFault)
  /-- A configuration file whose bytes are no text. -/
  | encoding (fault : Utf8.Fault)
  /-- A number in a configuration file, or in a message about it, with too many digits. -/
  | digits (count : Nat)
  /-- A configuration file with lists and tables inside too many others. -/
  | deepDocument
  /-- A message about a value that cannot be shown. -/
  | unshown (obstacle : Config.Obstacle)
  /-- An option for the theme without a value. -/
  | themeMissing
  /-- An option for the language without a value. -/
  | hintMissing
  | unstyled (missing : Unstyled)

namespace Failure

/-- The message of a failure. -/
def message : Failure → Text
  | file path fault => fault.message path
  | encoding fault => fault.message
  | digits count => Toml.digitMessage count
  | deepDocument => Config.nestingMessage
  | unshown obstacle => obstacle.message
  | themeMissing => "no theme is given".toList
  | hintMissing => "no language is given".toList
  | unstyled missing => "no style for ".toList ++ missing.cls.name.toList

end Failure

end Highlighter
