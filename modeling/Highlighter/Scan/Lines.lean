import Highlighter.Scan.Numeral
import Highlighter.Text.Blank
import Highlighter.Token.Builder

/-!
# The line scans for YAML and TOML

Both scans classify each line by itself: a comment, a heading, a key with a value,
or a plain line.  A string or a collection that runs over several lines is
classified line by line.  Blanks around a key or a value and the line ends are white
space, joined where they meet.
-/

namespace Highlighter

/-- A part of a line of the given class, with the blanks around it as white space. -/
def padded (cls : TokenClass) (part : Text) : List Piece :=
  let (lead, core, trail) := part.padding
  [⟨.whitespace, lead⟩, ⟨cls, core⟩, ⟨.whitespace, trail⟩]

/-- The tokens of a text whose lines are classified one by one. -/
def lineTokens (linePieces : Text → List Piece) (text : Text) : List Token :=
  match text.lines with
  | [] => []
  | first :: later =>
      Token.layout true
        (linePieces first ++ later.flatMap fun line =>
          ⟨.whitespace, ['\n']⟩ :: linePieces line)

namespace Yaml

/-- Whether a text is a number: a sign, digits, a point and more digits, of which only
the first digits must be there. -/
def isNumber (text : Text) : Bool :=
  let unsigned := if text.head? = some '-' then text.drop 1 else text
  let afterWhole := unsigned.dropWhile Char.isDigit
  let fraction := if afterWhole.head? = some '.' then afterWhole.drop 1 else afterWhole
  unsigned.head?.any Char.isDigit && fraction.all Char.isDigit

/-- The class of a value, which may have blanks around it. -/
def valueClass (value : Text) : TokenClass :=
  let core := value.trim
  if core.head? = some '\x22' || core.head? = some '\x27' then .string
  else if isNumber core then .number
  else if core = "true".toList || core = "false".toList || core = "null".toList then
    .keyword
  else .string

/-- The pieces of a line. -/
def linePieces (line : Text) : List Piece :=
  if line.trimLeft.head? = some '#' then [⟨.comment, line⟩]
  else
    match line.splitAt? ':' with
    | some (key, value) =>
        padded .property key ++ ⟨.punctuation, [':']⟩ :: padded (valueClass value) value
    | none => padded .identifier line

/-- The tokens of a text. -/
def tokens (text : Text) : List Token :=
  lineTokens linePieces text

end Yaml

namespace Toml

/-- The pieces of a line. -/
def linePieces (line : Text) : List Piece :=
  if line.trimLeft.head? = some '#' then [⟨.comment, line⟩]
  else if line.trimLeft.head? = some '[' then padded .type line
  else
    match line.splitAt? '=' with
    | some (key, value) =>
        padded .property key ++ ⟨.operator, ['=']⟩ :: padded .string value
    | none => padded .identifier line

/-- The tokens of a text. -/
def tokens (text : Text) : List Token :=
  lineTokens linePieces text

end Toml

end Highlighter
