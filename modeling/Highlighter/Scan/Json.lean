import Highlighter.Scan.Numeral
import Highlighter.Scan.Quote
import Highlighter.Token.Builder

/-!
# The scan for JSON

The scan looks for the lexemes of JSON anywhere in a text and leaves what stands
between them as plain text.  A double quote that never closes is plain text, and
from then on strings are no longer looked for: no later quote can close either.
-/

namespace Highlighter.Json

/-- The characters of JSON that stand for themselves. -/
def isPunctuation (c : Char) : Bool :=
  c == '\x7b' || c == '\x7d' || c == '[' || c == ']' || c == ',' || c == ':'

/-- The words of JSON. -/
def words : List Text :=
  ["true".toList, "false".toList, "null".toList]

/-- The length of the number at the start of a text, with its sign. -/
def numberLength : Text → Nat
  | [] => 0
  | c :: rest =>
      if c = '-' then
        match Numeral.length rest with
        | 0 => 0
        | length + 1 => length + 2
      else Numeral.length (c :: rest)

/-- The length of the word of JSON at the start of a text, which no word character
follows. -/
def wordLength (text : Text) : Nat :=
  match words.find? (·.isPrefixOf text) with
  | none => 0
  | some word => if (text.drop word.length).head?.any isWordChar then 0 else word.length

/-- Whether a colon follows, perhaps after blanks. -/
def beforeColon (text : Text) : Bool :=
  (text.dropWhile isAsciiBlank).head? == some ':'

/-- The class of the lexeme at the start of a text and the number of its characters.
`closable` tells whether strings are looked for, `afterWord` whether a word character
stands before the text. -/
def lexeme? (closable afterWord : Bool) (text : Text) : Option (TokenClass × Nat) :=
  match if closable then Quote.double.stringLength? text else none with
  | some length =>
      some (if beforeColon (text.drop length) then .property else .string, length)
  | none =>
      match numberLength text with
      | length + 1 => some (.number, length + 1)
      | 0 =>
          match if afterWord then 0 else wordLength text with
          | length + 1 => some (.keyword, length + 1)
          | 0 =>
              if text.head?.any isPunctuation then some (.punctuation, 1)
              else
                match text.countWhile isAsciiBlank with
                | length + 1 => some (.whitespace, length + 1)
                | 0 => none

/-- The plain text put aside, given in reverse, as a piece in front of others. -/
def flush (aside : Text) (later : List Piece) : List Piece :=
  if aside.isEmpty then later else ⟨.identifier, aside.reverse⟩ :: later

/-- The pieces of the text that is left, where `aside` is the plain text before it, in
reverse. -/
def piecesFrom (closable afterWord : Bool) (aside : Text) : Text → List Piece
  | [] => flush aside []
  | c :: rest =>
      match lexeme? closable afterWord (c :: rest) with
      | some (cls, length) =>
          let lexeme := c :: rest.take (length - 1)
          flush aside
            (⟨cls, lexeme⟩ ::
              piecesFrom closable (isWordChar (lexeme.getLast (List.cons_ne_nil _ _))) []
                (rest.drop (length - 1)))
      | none =>
          piecesFrom (closable && c != Quote.double.mark) (isWordChar c) (c :: aside) rest
termination_by text => text.length
decreasing_by
  all_goals simp only [List.length_drop, List.length_cons]
  all_goals omega

/-- The pieces of a text. -/
def pieces (text : Text) : List Piece :=
  piecesFrom true false [] text

/-- The tokens of a text. -/
def tokens (text : Text) : List Token :=
  Token.layout false (pieces text)

end Highlighter.Json
