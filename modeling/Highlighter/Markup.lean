import Highlighter.Language
import Highlighter.Text.Loose
import Highlighter.Theme
import Highlighter.Token.Basic

/-!
# Rendering tokens as markup

A token becomes a span with the class and the style of its kind; white space is left
bare.  The text of a token is only escaped, never changed, so what a reader of the
markup sees is the source.  A block puts the tokens beside line numbers under a
badge, and a document puts blocks on a page.

Rendering fails only where the theme has no style for the class of a token.
-/

namespace Highlighter.Markup

/-- One character of the content of an element.  Characters beyond ASCII are written as
references to their code point. -/
def escapeContentChar (c : Char) : Text :=
  if c = '&' then "&amp;".toList
  else if c = '<' then "&lt;".toList
  else if c = '>' then "&gt;".toList
  else if 0x7F < c.toNat then "&#x".toList ++ Text.capitalHexadecimal c.toNat ++ [';']
  else [c]

/-- A text as the content of an element. -/
def escapeContent (text : Text) : Text :=
  text.flatMap escapeContentChar

/-- A loose text as the content of an element.  A surrogate is written as a reference, too. -/
def escapeLoose (text : LooseText) : Text :=
  text.flatMap fun
    | .scalar c => escapeContentChar c
    | .surrogate point => "&#x".toList ++ Text.capitalHexadecimal point.code ++ [';']

/-- One character of the value of an attribute. -/
def escapeAttributeChar (c : Char) : Text :=
  if c = '&' then "&amp;".toList
  else if c = '<' then "&lt;".toList
  else if c = '>' then "&gt;".toList
  else if c = '\x22' then "&quot;".toList
  else [c]

/-- A text as the value of an attribute between double quotes. -/
def escapeAttribute (text : Text) : Text :=
  text.flatMap escapeAttributeChar

/-- An attribute with its value, which is written as it is given. -/
def attributeText (name : String) (value : Text) : Text :=
  ' ' :: name.toList ++ ['=', '\x22'] ++ value ++ ['\x22']

/-- An element with its attributes around its content. -/
def element (name : String) (attributes content : Text) : Text :=
  '<' :: name.toList ++ attributes ++ '>' :: content ++ ['<', '/'] ++ name.toList ++ ['>']

/-- The declarations of a style.  An empty background is no background. -/
def declarations (style : Style) : Text :=
  let foreground := "color:".toList ++ style.foreground.toList
  match style.background with
  | none => foreground
  | some background =>
      if background.isEmpty then foreground
      else foreground ++ ";background-color:".toList ++ background.toList

/-- A token in the style of its class. -/
def styledToken (style : Style) (token : Token) : Text :=
  element "span"
    (attributeText "class" ("tok-".toList ++ token.cls.name.toList) ++
      attributeText "style" (escapeAttribute (declarations style)))
    (escapeContent token.text)

/-- One token; white space has no element. -/
def renderToken (theme : Theme) (token : Token) : Except Unstyled Text :=
  if token.cls = .whitespace then .ok (escapeContent token.text)
  else (theme.style token.cls).map fun style => styledToken style token

/-- The tokens of a text, one after the other. -/
def renderTokens (theme : Theme) : List Token → Except Unstyled Text
  | [] => .ok []
  | token :: later => do
      let first ← renderToken theme token
      let others ← renderTokens theme later
      pure (first ++ others)

/-- The numbers from one to `count`, one on each line. -/
def lineNumbers (count : Nat) : Text :=
  ['\n'].intercalate ((List.range count).map fun index => Text.decimal (index + 1))

/-- The style attribute of what stands in the gutter colour, which is written as it
is. -/
def gutterStyle (theme : Theme) : Text :=
  attributeText "style" ("color:".toList ++ theme.gutter.toList)

/-- The badge of a language. -/
def badge (theme : Theme) (language : Language) : Text :=
  element "div" (attributeText "class" "codelex-header".toList ++ gutterStyle theme)
    (escapeContent language.label)

/-- The line numbers beside a source. -/
def gutter (theme : Theme) (source : Text) : Text :=
  element "pre" (attributeText "class" "codelex-gutter".toList ++ gutterStyle theme)
    (lineNumbers (source.count '\n' + 1))

/-- A block of code with its badge and its line numbers, as far as they are wanted. -/
def renderBlock (theme : Theme) (language : Option Language) (numbered : Bool)
    (tokens : List Token) : Except Unstyled Text := do
  let code ← renderTokens theme tokens
  let blockStyle := declarations ⟨theme.foreground, some theme.background⟩
  let listing :=
    element "pre" (attributeText "class" "codelex-code".toList) (element "code" [] code)
  let body :=
    element "div" (attributeText "class" "codelex-body".toList)
      ((if numbered then gutter theme (Token.source tokens) else []) ++ listing)
  let heading := (language.map (badge theme)).getD []
  pure (element "div"
    (attributeText "class" "codelex".toList ++
      attributeText "style" (escapeAttribute blockStyle))
    (heading ++ body))

/-- A rule of a style sheet. -/
structure StyleRule where
  selector : String
  settings : List (String × String)

/-- A rule on a line of its own. -/
def StyleRule.toText (rule : StyleRule) : Text :=
  rule.selector.toList ++ [' ', '\x7b'] ++
    (rule.settings.flatMap fun (name, value) =>
      ' ' :: name.toList ++ [':', ' '] ++ value.toList ++ [';']) ++
    [' ', '\x7d', '\n']

/-- The style sheet of the blocks. -/
def styleSheet : List StyleRule :=
  [⟨".codelex",
      [("border-radius", "8px"), ("overflow", "auto"),
        ("font-family", "\"JetBrains Mono\", Menlo, Monaco, monospace"),
        ("font-size", "13px"), ("line-height", "1.5")]⟩,
    ⟨".codelex-header",
      [("padding", "6px 12px"), ("font-size", "10px"), ("font-weight", "600"),
        ("letter-spacing", "0.5px")]⟩,
    ⟨".codelex-body", [("display", "flex"), ("padding", "12px")]⟩,
    ⟨".codelex pre", [("margin", "0")]⟩,
    ⟨".codelex-gutter",
      [("padding-right", "16px"), ("text-align", "right"), ("user-select", "none")]⟩]

/-- A page with blocks.  An empty title is no title. -/
def renderDocument (title : Option LooseText) (blocks : List Text) : Text :=
  let heading :=
    match title with
    | none => []
    | some title =>
        if title.isEmpty then []
        else element "title" [] (escapeLoose title) ++ ['\n']
  "<!DOCTYPE html>\n<html>\n<head>\n<meta charset=\"utf-8\">\n".toList ++ heading ++
    element "style" [] ('\n' :: styleSheet.flatMap StyleRule.toText) ++
    "\n</head>\n<body>\n".toList ++ blocks.flatMap (· ++ ['\n']) ++
    "</body>\n</html>\n".toList

end Highlighter.Markup
