import Highlighter.Config.Display
import Highlighter.Token.Class

/-!
# Colour themes

A theme gives token classes their style and a block its colours.  A style that a
theme does not have cannot be looked up; the built-in themes have one for every
class.  Overrides replace foreground colours one name after the other, and the first
entry that is at fault refuses them all.
-/

namespace Highlighter

open Config (Value Table)

/-- The colours of a token. -/
structure Style where
  foreground : String
  background : Option String
  deriving DecidableEq, Repr

/-- A named table of styles with the colours of the block around the tokens. -/
structure Theme where
  name : String
  /-- The style of each class that has one. -/
  styles : TokenClass → Option Style
  background : String
  foreground : String
  /-- The colour of line numbers and of the badge. -/
  gutter : String

/-- What can be wrong with the choice of a theme or with its overrides. -/
inductive ThemeFault where
  | unknownTheme (name : String)
  | unknownClass (name : String)
  | invalidColour (name : String) (value : Value)

/-- A style was asked of a theme that has none for the class. -/
structure Unstyled where
  cls : TokenClass
  deriving DecidableEq, Repr

/-- Why overrides were refused. -/
inductive OverrideFault where
  | theme (fault : ThemeFault)
  /-- A value at fault that cannot be shown. -/
  | unshown (obstacle : Config.Obstacle)
  | unstyled (missing : Unstyled)

namespace Theme

/-- Styles that are a foreground colour only. -/
def plainStyles (colour : TokenClass → String) : TokenClass → Option Style :=
  fun cls => some ⟨colour cls, none⟩

/-- The palette of code blocks. -/
def monokai : Theme where
  name := "monokai"
  styles := plainStyles fun
    | .keyword => "#F92672"
    | .string => "#E6DB74"
    | .number => "#AE81FF"
    | .comment => "#75715E"
    | .functionCall => "#A6E22E"
    | .type => "#66D9EF"
    | .identifier => "#F8F8F2"
    | .operator => "#F92672"
    | .punctuation => "#F8F8F2"
    | .property => "#FD971F"
    | .whitespace => "#F8F8F2"
  background := "#1E1E1E"
  foreground := "#F8F8F2"
  gutter := "#75715E"

/-- The gutter colour of a theme that names none. -/
def defaultGutter : String :=
  "#858585"

/-- The palette of editors. -/
def darkPlus : Theme where
  name := "dark-plus"
  styles := plainStyles fun
    | .keyword => "#C586C0"
    | .string => "#CE9178"
    | .number => "#B5CEA8"
    | .comment => "#6A9955"
    | .functionCall => "#DCDCAA"
    | .type => "#4EC9B0"
    | .identifier => "#9CDCFE"
    | .operator => "#D4D4D4"
    | .punctuation => "#D4D4D4"
    | .property => "#9CDCFE"
    | .whitespace => "#D4D4D4"
  background := "#1E1E1E"
  foreground := "#D4D4D4"
  gutter := defaultGutter

/-- The built-in themes, in the order of their names. -/
def builtIn : List Theme :=
  [darkPlus, monokai]

/-- The theme in force when none is chosen. -/
def standard : Theme :=
  monokai

/-- The built-in theme of a name. -/
def ofName (name : String) : Except ThemeFault Theme :=
  match builtIn.find? (·.name == name) with
  | some theme => .ok theme
  | none => .error (.unknownTheme name)

/-- The style of a class. -/
def style (theme : Theme) (cls : TokenClass) : Except Unstyled Style :=
  match theme.styles cls with
  | some style => .ok style
  | none => .error ⟨cls⟩

/-- Whether a character is a digit of base sixteen, in either case. -/
def isHexDigit (c : Char) : Bool :=
  (hexValue? c).isSome

/-- Whether a text is a number sign and six digits of base sixteen. -/
def isColour (text : String) : Bool :=
  match text.toList with
  | [] => false
  | c :: digits => c == '#' && digits.length == 6 && digits.all isHexDigit

/-- The colour that a value is, if it is one. -/
def colourOf? : Value → Option String
  | .text text => if isColour text then some text else none
  | _ => none

/-- The theme with another foreground colour for one class. -/
def recolour (theme : Theme) (cls : TokenClass) (style : Style) (colour : String) : Theme :=
  { theme with
    styles := fun asked =>
      if asked = cls then some { style with foreground := colour } else theme.styles asked }

@[simp]
theorem styles_recolour (theme : Theme) (cls asked : TokenClass) (style : Style)
    (colour : String) :
    (theme.recolour cls style colour).styles asked =
      if asked = cls then some { style with foreground := colour } else theme.styles asked :=
  rfl

/-- The theme after one override, or what is wrong with it; the name is judged before
the value. -/
def override (theme : Theme) (name : String) (value : Value) : Except OverrideFault Theme :=
  match TokenClass.ofName? name with
  | none => .error (.theme (.unknownClass name))
  | some cls =>
      match colourOf? value with
      | none =>
          match value.obstacle? Config.shownDepth with
          | some obstacle => .error (.unshown obstacle)
          | none => .error (.theme (.invalidColour name value))
      | some colour =>
          match theme.styles cls with
          | none => .error (.unstyled ⟨cls⟩)
          | some style => .ok (theme.recolour cls style colour)

/-- The theme after all overrides of a table. -/
def withOverrides (theme : Theme) (colours : Table) : Except OverrideFault Theme :=
  colours.foldlM (fun current (name, value) => current.override name value) theme

end Theme

namespace ThemeFault

/-- The names of the built-in themes, as messages list them. -/
def available : Text :=
  Config.commaSeparated (Theme.builtIn.map (·.name.toList))

/-- The message of a fault.  Names are inserted as they are, values are shown. -/
def message : ThemeFault → Text
  | unknownTheme name =>
      "unknown theme '".toList ++ name.toList ++ "' (available: ".toList ++ available ++
        [')']
  | unknownClass name =>
      "unknown token class '".toList ++ name.toList ++ "' in theme colors".toList
  | invalidColour name value =>
      "invalid colour for '".toList ++ name.toList ++ "' (expected #RRGGBB): ".toList ++
        value.display

end ThemeFault

end Highlighter
