import Highlighter.Scan.Loose

/-!
# Semantic tokens for editors

An editor is told about tokens by their line, their start and their length on that
line, both in UTF-16 units, and the index of their type.  A token that spans lines is
reported once for each of them.  The entries are sent as integers, five for each, in
which line and start are counted from the entry before.

Units are counted by encoding, so a surrogate in any token refuses all of them.
-/

namespace Highlighter

/-- The number of UTF-16 units of a code point.  A surrogate counts for one, though none is
ever encoded alone. -/
def CodePoint.utf16Units : CodePoint → Nat
  | scalar c => if c.toNat < 0x10000 then 1 else 2
  | surrogate _ => 1

namespace LooseText

/-- The number of UTF-16 units of a loose text. -/
def utf16Length (text : LooseText) : Nat :=
  text.foldr (fun point units => point.utf16Units + units) 0

/-- The number of UTF-16 units that a loose text is encoded in. -/
def encodedLength (text : LooseText) : Except Unencodable Nat :=
  Unencodable.unless text.utf16Fault? text.utf16Length

/-- The lines of a loose text. -/
def lines (text : LooseText) : List LooseText :=
  text.splitOn (.scalar '\n')

/-- A line without the carriage returns at its end. -/
def withoutReturns (line : LooseText) : LooseText :=
  (line.reverse.dropWhile (· == .scalar '\r')).reverse

end LooseText

namespace Semantic

/-- The names of the token types, in the order of their indices. -/
def legend : List String :=
  ["string", "comment", "keyword", "type", "number", "function", "variable", "property",
    "operator"]

/-- The index of the type of a class.  Punctuation and white space are not reported. -/
def typeIndex? : TokenClass → Option Nat
  | .string => some 0
  | .comment => some 1
  | .keyword => some 2
  | .type => some 3
  | .number => some 4
  | .functionCall => some 5
  | .identifier => some 6
  | .property => some 7
  | .operator => some 8
  | .punctuation | .whitespace => none

/-- A stretch of one line with its type; lines and units are counted from zero. -/
structure Entry where
  line : Nat
  start : Nat
  length : Nat
  typeIndex : Nat
  deriving DecidableEq, Repr

/-- A place by line and UTF-16 unit, both counted from zero. -/
structure Place where
  line : Nat
  unit : Nat
  deriving DecidableEq, Repr

/-- The entry of a stretch at a place, if there is anything to report. -/
def reported? (typeIndex : Option Nat) (place : Place) (length : Nat) : Option Entry :=
  if length = 0 then none
  else typeIndex.map fun index => ⟨place.line, place.unit, length, index⟩

/-- The entry of a part of a line at a place, and the place behind the part. -/
def reportPart (typeIndex : Option Nat) (place : Place) (part : LooseText) :
    Except Unencodable (Option Entry × Place) := do
  let length ← part.withoutReturns.encodedLength
  let units ← part.encodedLength
  return (reported? typeIndex place length, ⟨place.line, place.unit + units⟩)

/-- The entries of the parts of a token, of which each after the first starts a line, and
the place reached. -/
def partEntries (typeIndex : Option Nat) (place : Place) :
    List LooseText → Except Unencodable (List Entry × Place)
  | [] => return ([], place)
  | [part] => do
      let (entry, reached) ← reportPart typeIndex place part
      return (entry.toList, reached)
  | part :: later => do
      let (entry, _) ← reportPart typeIndex place part
      let (entries, reached) ← partEntries typeIndex ⟨place.line + 1, 0⟩ later
      return (entry.toList ++ entries, reached)

/-- The entries of tokens from a place on. -/
def entriesFrom (place : Place) : List LooseToken → Except Unencodable (List Entry)
  | [] => return []
  | token :: later => do
      let (own, reached) ← partEntries (typeIndex? token.cls) place token.text.lines
      return own ++ (← entriesFrom reached later)

/-- The entries of tokens. -/
def entries (tokens : List LooseToken) : Except Unencodable (List Entry) :=
  entriesFrom ⟨0, 0⟩ tokens

/-- Entries as integers, counted from the place of the entry before. -/
def relativeFrom (place : Place) : List Entry → List Int
  | [] => []
  | entry :: later =>
      let lines : Int := entry.line - place.line
      let start : Int := if lines = 0 then entry.start - place.unit else entry.start
      [lines, start, entry.length, entry.typeIndex, 0] ++
        relativeFrom ⟨entry.line, entry.start⟩ later

/-- The integers that report tokens. -/
def data (tokens : List LooseToken) : Except Unencodable (List Int) :=
  return relativeFrom ⟨0, 0⟩ (← entries tokens)

end Semantic

end Highlighter
