import Highlighter.Scan.Rule
import Highlighter.Token.Builder

/-!
# The scan for programming languages

The scan tries the rules in their order at each place, takes the slice of the first
one that applies, and goes on after it.  Where none applies it takes one character
as an identifier, so it always moves on.  The scan is a recursion on the length of
the text that is left.
-/

namespace Highlighter.Code

/-- The slice decided at one place: its class, the number of its characters after the
first, and the record of quotes afterwards. -/
structure Slice where
  cls : TokenClass
  further : Nat
  record : QuoteRecord
  deriving DecidableEq, Repr

/-- The slice of the first rule that applies, or one character as an identifier. -/
def firstSlice (dialect : Dialect) (record : QuoteRecord) (offset : Nat) (c : Char)
    (rest : Text) : List ScanRule → Slice
  | [] => ⟨.identifier, 0, record⟩
  | rule :: later =>
      match rule.extent dialect record offset c rest with
      | (0, after) => firstSlice dialect after offset c rest later
      | (further + 1, after) => ⟨rule.tokenClass, further, after⟩

/-- The pieces of the text that is left at an offset. -/
def piecesFrom (dialect : Dialect) (order : List ScanRule) (record : QuoteRecord)
    (offset : Nat) : Text → List Piece
  | [] => []
  | c :: rest =>
      let slice := firstSlice dialect record offset c rest order
      ⟨slice.cls, c :: rest.take slice.further⟩ ::
        piecesFrom dialect order slice.record (offset + slice.further + 1)
          (rest.drop slice.further)
termination_by text => text.length
decreasing_by
  simp only [List.length_drop, List.length_cons]
  omega

/-- The pieces of a text. -/
def pieces (dialect : Dialect) (order : List ScanRule) (text : Text) : List Piece :=
  piecesFrom dialect order .empty 0 text

/-- The tokens of a text. -/
def tokens (dialect : Dialect) (order : List ScanRule) (text : Text) : List Token :=
  Token.layout false (pieces dialect order text)

end Highlighter.Code
