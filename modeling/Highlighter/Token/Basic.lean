import Highlighter.Token.Class
import Highlighter.Token.Position

/-!
# Tokens and pieces

A piece is a slice of a text with its class; it is what a scanner decides.  A
token is a piece together with the place it was found at.  `Partition` says that
a list of tokens covers a text completely: nothing is empty, nothing is lost or
repeated, and every place is the true one.
-/

namespace Highlighter

/-- A classified slice of a text. -/
structure Piece where
  cls : TokenClass
  text : Text
  deriving DecidableEq, Repr

/-- The stretch of a text from one position up to another. -/
structure Span where
  start : Position
  stop : Position
  deriving DecidableEq, Repr

/-- A classified slice of a text and the stretch it fills. -/
structure Token where
  cls : TokenClass
  text : Text
  span : Span
  deriving DecidableEq, Repr

namespace Token

/-- The class and the text of a token. -/
def piece (token : Token) : Piece :=
  ⟨token.cls, token.text⟩

/-- Two neighbouring tokens as one, from the start of the first to the end of
the second, of the class of the first. -/
def fuse (first second : Token) : Token :=
  ⟨first.cls, first.text ++ second.text, ⟨first.span.start, second.span.stop⟩⟩

/-- The texts of tokens, one after the other. -/
def source (tokens : List Token) : Text :=
  tokens.flatMap (·.text)

/-- The tokens cover `text`, which follows `before`. -/
def PartitionAfter (before : Text) : Text → List Token → Prop
  | text, [] => text = []
  | text, token :: later =>
      token.text ≠ [] ∧
        token.span = ⟨.after before, .after (before ++ token.text)⟩ ∧
        ∃ rest, text = token.text ++ rest ∧
          PartitionAfter (before ++ token.text) rest later

/-- The tokens cover the whole of a text, each at its true place. -/
def Partition (text : Text) (tokens : List Token) : Prop :=
  PartitionAfter [] text tokens

end Token

end Highlighter
