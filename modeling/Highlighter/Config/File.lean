import Highlighter.Config.Report
import Highlighter.Failure
import Highlighter.Text.LineEnds
import Highlighter.Toml.Document

/-!
# Configuration files

A configuration file is looked for beside the input unless another one is named.  A
path that leads to no file is an empty configuration.  A document that is refused is
reported with the line that the message mentions first.

A file that the system refuses to look up or to read, bytes that are no text and numbers
with too many digits are failures and not faults of the configuration.
-/

namespace Highlighter.Config

/-- What is wrong with a configuration. -/
inductive Fault where
  /-- A document that is refused, with the message and the line that it mentions. -/
  | refused (message : Text) (line : Option Nat)
  /-- A setting that is not of the kind it has to be. -/
  | wrongKind (setting kind : String)
  | theme (fault : ThemeFault)

/-- A fault with the file that it is in, if it is in one. -/
structure FaultIn where
  fault : Fault
  path : Option Path

/-- Why there is no configuration. -/
inductive Problem where
  | fault (found : FaultIn)
  | failure (failure : Failure)

namespace Fault

/-- The message of a fault. -/
def message : Fault → Text
  | refused message _ => "invalid TOML: ".toList ++ message
  | wrongKind setting kind => setting.toList ++ " must be ".toList ++ kind.toList
  | theme fault => fault.message

/-- The line of a fault. -/
def line : Fault → Option Nat
  | refused _ line => line
  | wrongKind _ _ | theme _ => none

end Fault

namespace FaultIn

/-- What is shown about a fault. -/
def report (found : FaultIn) : Report :=
  ⟨found.fault.message, found.path, found.fault.line.map Int.ofNat⟩

end FaultIn

/-- The name of a configuration file beside the input. -/
def fileName : LooseText :=
  "codelex.toml"

/-- The path of the configuration file: the named one, or the one beside the input. -/
def filePath (named : Option Path) (input : Path) : Path :=
  named.getD (input.parent.child fileName)

/-- The bytes of a configuration file; none if there is no such file. -/
def fileBytes? (files : FileSystem) (path : Path) : Except Failure (Option Utf8.Bytes) := do
  if ← (files.isFile path).mapError (.file path) then
    return some (← (files.read path).mapError (.file path))
  else return none

/-- The problem that a refused document is. -/
def rejectionProblem (path : Path) (document : Text) (rejection : Toml.Rejection) : Problem :=
  match rejection.fault with
  | .oversizedInteger digits => .failure (.digits digits)
  | .deepNesting => .failure .deepDocument
  | _ =>
      let message := rejection.message document
      match Toml.lineDigits? message with
      | none => .fault ⟨.refused message none, some path⟩
      | some digits =>
          if digitLimit < digits.length then .failure (.digits digits.length)
          else .fault ⟨.refused message (some (Toml.numberOfDigits digits)), some path⟩

/-- The configuration in a file. -/
def load (files : FileSystem) (path : Path) : Except Problem Table := do
  match ← (fileBytes? files path).mapError .failure with
  | none => .ok []
  | some bytes =>
      let text ← (Utf8.decode bytes).mapError fun fault => .failure (.encoding fault)
      let document := Text.pairsAsLineFeeds text
      (Toml.read document).mapError (rejectionProblem path document)

end Highlighter.Config
