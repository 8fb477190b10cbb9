import Highlighter.Language
import Highlighter.Text.Quoted
import Highlighter.Token.Basic

/-!
# Token listings

A listing has one line for each token: its class, the line and column it starts at,
and its text as a quoted literal, with tabs between them.  A report puts the language
and the number of tokens in front.
-/

namespace Highlighter.Listing

/-- The line of a token, without its end. -/
def tokenLine (token : Token) : Text :=
  token.cls.name.toList ++ '\t' :: Text.decimal token.span.start.line ++
    ':' :: Text.decimal token.span.start.column ++ '\t' :: Quoted.encode token.text

/-- The lines of tokens. -/
def lines (tokens : List Token) : Text :=
  tokens.flatMap fun token => tokenLine token ++ ['\n']

/-- The lines of tokens under their language, if it is given, and their number. -/
def report (language : Option Language) (tokens : List Token) : Text :=
  (match language with
    | none => []
    | some language => "language: ".toList ++ language.name.toList ++ ['\n']) ++
    "tokens: ".toList ++ Text.decimal tokens.length ++ '\n' :: lines tokens

end Highlighter.Listing
