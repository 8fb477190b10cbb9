import Highlighter.Token.Basic

/-!
# Laying pieces out as tokens

A builder takes pieces in the order of the text and gives each the place where
the one before it ended.  An empty piece leaves no trace.  A builder that merges
joins a white-space piece to a white-space token directly before it, so that no
two such tokens are neighbours.
-/

namespace Highlighter

/-- The tokens laid out so far and the position reached. -/
structure TokenBuilder where
  /-- Whether neighbouring white-space tokens are joined. -/
  merges : Bool
  /-- The tokens laid out so far, the last one first. -/
  newestFirst : List Token
  /-- Where the next token starts. -/
  position : Position
  deriving DecidableEq, Repr

namespace TokenBuilder

/-- A builder at the start of a text. -/
def empty (merges : Bool) : TokenBuilder :=
  ⟨merges, [], .start⟩

/-- The tokens laid out so far, in the order of the text. -/
def tokens (builder : TokenBuilder) : List Token :=
  builder.newestFirst.reverse

/-- Put a token in front of the ones before it, or join it to the last of them
when both are white space and joining is asked for. -/
def push (merges : Bool) (token : Token) : List Token → List Token
  | [] => [token]
  | previous :: older =>
      if merges && token.cls == .whitespace && previous.cls == .whitespace then
        previous.fuse token :: older
      else token :: previous :: older

/-- Lay out one more piece. -/
def emit (builder : TokenBuilder) (piece : Piece) : TokenBuilder :=
  if piece.text.isEmpty then builder
  else
    let stop := builder.position.advance piece.text
    let token : Token := ⟨piece.cls, piece.text, ⟨builder.position, stop⟩⟩
    { builder with
      newestFirst := push builder.merges token builder.newestFirst
      position := stop }

/-- Lay out pieces from left to right. -/
def emitAll (builder : TokenBuilder) (pieces : List Piece) : TokenBuilder :=
  pieces.foldl emit builder

@[simp]
theorem emit_nil (builder : TokenBuilder) (cls : TokenClass) :
    builder.emit ⟨cls, []⟩ = builder :=
  rfl

@[simp]
theorem emitAll_nil (builder : TokenBuilder) : builder.emitAll [] = builder :=
  rfl

@[simp]
theorem emitAll_cons (builder : TokenBuilder) (piece : Piece) (pieces : List Piece) :
    builder.emitAll (piece :: pieces) = (builder.emit piece).emitAll pieces :=
  rfl

end TokenBuilder

namespace Token

/-- The tokens of pieces that follow one another from the start of a text. -/
def layout (merges : Bool) (pieces : List Piece) : List Token :=
  ((TokenBuilder.empty merges).emitAll pieces).tokens

end Token

end Highlighter
