import Highlighter.Text.Quoted

/-!
# Texts with surrogates

A text that comes from outside may hold code points that are no characters.  These are the
surrogates, of which UTF-16 writes some characters as pairs.  An editor can send one alone,
and a byte of a file name or of an argument that is not UTF-8 is received as one.

A loose text is a list of code points, surrogates among them.  No encoding writes a surrogate:
one that is given a loose text says which code points it refuses, and writes nothing.
-/

namespace Highlighter

/-- A code point that is no character. -/
structure Surrogate where
  code : Nat
  low : 0xD800 ≤ code
  high : code < 0xE000
  deriving DecidableEq, Repr

namespace Surrogate

/-- The surrogate with the least code point. -/
def least : Surrogate :=
  ⟨0xD800, by decide, by decide⟩

/-- Whether a surrogate stands for a byte that is not UTF-8.  It is the byte behind U+DC00. -/
def isByte (point : Surrogate) : Bool :=
  0xDC80 ≤ point.code && point.code < 0xDD00

/-- A surrogate as messages show it. -/
def escape (point : Surrogate) : Text :=
  '\\' :: 'u' :: Text.hexadecimal 4 point.code

end Surrogate

/-- What a loose text consists of. -/
inductive CodePoint where
  | scalar (c : Char)
  | surrogate (point : Surrogate)
  deriving DecidableEq, Repr

namespace CodePoint

/-- Whether a code point is a surrogate. -/
def isSurrogate : CodePoint → Bool
  | scalar _ => false
  | surrogate _ => true

/-- A code point in a message: the character, or the escape of the surrogate. -/
def shown : CodePoint → Text
  | scalar c => [c]
  | surrogate point => point.escape

/-- A code point in a literal between the given quotes. -/
def quoted (quote : Char) : CodePoint → Text
  | scalar c => Quoted.encodeChar quote c
  | surrogate point => point.escape

/-- A code point for a scan.  No scan tells a surrogate from the replacement character: neither
is a letter, a digit, a blank, a mark of any language, or part of a word. -/
def scanned : CodePoint → Char
  | scalar c => c
  | surrogate _ => '\uFFFD'

end CodePoint

/-- A text as it is received: its code points, surrogates among them. -/
abbrev LooseText := List CodePoint

/-- The code points that an encoding refuses. -/
structure Unencodable where
  encoding : String
  /-- The first of them. -/
  first : Surrogate
  /-- Where it stands in what was to be encoded. -/
  position : Nat
  /-- How many there are in a row. -/
  count : Nat
  deriving DecidableEq, Repr

/-- The message of a refusal: the one code point at fault, or the places of several. -/
def Unencodable.message (fault : Unencodable) : Text :=
  let place :=
    if fault.count = 1 then
      "character '".toList ++ fault.first.escape ++ "' in position ".toList ++
        Text.decimal fault.position
    else
      "characters in position ".toList ++ Text.decimal fault.position ++ '-' ::
        Text.decimal (fault.position + fault.count - 1)
  '\x27' :: fault.encoding.toList ++ "' codec can't encode ".toList ++ place ++
    ": surrogates not allowed".toList

/-- A value that is there unless code points are refused. -/
def Unencodable.unless {α : Type} (fault? : Option Unencodable) (value : α) :
    Except Unencodable α :=
  match fault? with
  | some fault => .error fault
  | none => .ok value

namespace LooseText

/-- The code points of a text. -/
def ofText (text : Text) : LooseText :=
  text.map .scalar

/-- The code points of a string. -/
def ofString (written : String) : LooseText :=
  ofText written.toList

instance : Coe String LooseText :=
  ⟨ofString⟩

/-- A loose text in a message. -/
def shown (text : LooseText) : Text :=
  text.flatMap CodePoint.shown

/-- A loose text for a scan, of the same length. -/
def scanned (text : LooseText) : Text :=
  text.map CodePoint.scanned

/-- The literal of a loose text.  Only its characters decide between which quotes it stands. -/
def literal (text : LooseText) : Text :=
  let quote := Quoted.quoteFor text.scanned
  quote :: text.flatMap (CodePoint.quoted quote) ++ [quote]

/-- The first surrogate of a kind, with its place behind a number of code points, and what
follows it. -/
def firstSurrogate? (refused : Surrogate → Bool) (position : Nat) :
    LooseText → Option (Nat × Surrogate × LooseText)
  | [] => none
  | .scalar _ :: rest => firstSurrogate? refused (position + 1) rest
  | .surrogate point :: rest =>
      if refused point then some (position, point, rest)
      else firstSurrogate? refused (position + 1) rest

/-- Why a loose text has no UTF-16 units: its first surrogate, if there is one. -/
def utf16Fault? (text : LooseText) : Option Unencodable :=
  (firstSurrogate? (fun _ => true) 0 text).map fun (position, first, _) =>
    ⟨"utf-16-le", first, position, 1⟩

end LooseText

end Highlighter
