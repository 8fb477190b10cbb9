import Highlighter.Scan.Code
import Highlighter.Scan.Json
import Highlighter.Scan.Lines

/-!
# Highlighting a text in a given language

Each language has its scan: the data formats one of their own, the programming
languages the scan of their dialect, and all others none, so that the text is one
token.
-/

namespace Highlighter

/-- The class of a text that no scan looks at: white space if it is nothing else. -/
def plainClass (text : Text) : TokenClass :=
  if !text.isEmpty && text.all isAsciiBlank then .whitespace else .identifier

/-- A text as one token, or none if it is empty. -/
def plainTokens (text : Text) : List Token :=
  Token.layout false [⟨plainClass text, text⟩]

/-- The tokens of a text in a language, if it is known. -/
def highlight (text : Text) : Option Language → List Token
  | none => plainTokens text
  | some .json => Json.tokens text
  | some .yaml => Yaml.tokens text
  | some .toml => Toml.tokens text
  | some language =>
      match Dialect.ofLanguage? language with
      | some dialect => Code.tokens dialect ScanRule.standard text
      | none => plainTokens text

/-- A language with a dialect is scanned by it. -/
theorem highlight_of_ofLanguage? {language : Language} {dialect : Dialect}
    (builtIn : Dialect.ofLanguage? language = some dialect) (text : Text) :
    highlight text (some language) = Code.tokens dialect ScanRule.standard text := by
  cases language <;> cases builtIn <;> rfl

end Highlighter
