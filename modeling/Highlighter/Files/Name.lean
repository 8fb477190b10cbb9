import Highlighter.Text.Loose
import Highlighter.Text.Utf8

/-!
# Names of files

The system knows a file by the bytes of its name.  A text stands for its UTF-8 bytes, and a
surrogate that stands for a byte for that byte, so that every file can be named.  Other
surrogates stand for nothing: a path with one of them is refused before the system sees it.
-/

namespace Highlighter

/-- The bytes of a code point in the name of a file. -/
def CodePoint.nameBytes : CodePoint → Utf8.Bytes
  | scalar c => String.utf8EncodeChar c
  | surrogate point => [UInt8.ofNat (point.code - 0xDC00)]

namespace LooseText

/-- The bytes of a loose text in a path. -/
def nameBytes (text : LooseText) : Utf8.Bytes :=
  text.flatMap CodePoint.nameBytes

/-- Why a loose text has no bytes in a path: the first surrogate that stands for none, and those
that follow it at once. -/
def pathFault? (text : LooseText) : Option Unencodable :=
  (firstSurrogate? (!·.isByte) 0 text).map fun (position, first, rest) =>
    ⟨"utf-8", first, position, 1 + (rest.takeWhile CodePoint.isSurrogate).length⟩

end LooseText

/-- The name of a file. -/
structure FileName where
  bytes : Utf8.Bytes
  deriving DecidableEq, Repr

namespace FileName

/-- The name that a loose text stands for. -/
def ofText (text : LooseText) : FileName :=
  ⟨text.nameBytes⟩

instance : Coe String FileName :=
  ⟨fun name => ofText name⟩

/-- The name of the directory above. -/
def above : FileName :=
  ".."

end FileName

end Highlighter
