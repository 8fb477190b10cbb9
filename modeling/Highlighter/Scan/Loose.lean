import Highlighter.Detection
import Highlighter.Text.Loose

/-!
# Scanning texts with surrogates

A loose text is scanned with a character in place of every surrogate, and the tokens get their
texts back from the loose text.  The positions of the tokens count code points, so they are
those of the scan.
-/

namespace Highlighter

/-- A classified slice of a loose text and the stretch it fills. -/
structure LooseToken where
  cls : TokenClass
  text : LooseText
  span : Span
  deriving DecidableEq, Repr

namespace LooseToken

/-- A token whose text holds no surrogates. -/
def ofToken (token : Token) : LooseToken :=
  ⟨token.cls, .ofText token.text, token.span⟩

/-- The texts of tokens, one after the other. -/
def source (tokens : List LooseToken) : LooseText :=
  tokens.flatMap (·.text)

/-- The tokens of a scan, with their texts cut from the loose text that was scanned. -/
def cutFrom (text : LooseText) : List Token → List LooseToken
  | [] => []
  | token :: later =>
      ⟨token.cls, text.take token.text.length, token.span⟩ ::
        cutFrom (text.drop token.text.length) later

end LooseToken

namespace LooseText

/-- The tokens of a loose text in a language, if it is known. -/
def highlight (text : LooseText) (language : Option Language) : List LooseToken :=
  LooseToken.cutFrom text (Highlighter.highlight text.scanned language)

/-- The language of a loose text: the one its hint names, or the one its content shows. -/
def detect (text : LooseText) (hint : Option LooseText) : Language :=
  Detection.detect text.scanned (hint.map scanned)

end LooseText

end Highlighter
