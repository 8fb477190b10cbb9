import Highlighter.CommandLine.Arguments
import Highlighter.Config.File

/-!
# The settings of a run

Settings come from the command line, then from the configuration file, and then from
the defaults.  The configuration is checked completely, also where the command line
decides; the first check that fails, in the order below, is reported.  Colours of the
configuration are put on top of whichever theme was chosen.
-/

namespace Highlighter.CommandLine

open Config (Value Table Problem)

/-- The settings of a run. -/
structure Settings where
  input : Path
  output : Option Path
  language : Option (Given String)
  theme : Theme
  lineNumbers : Bool
  format : Given OutputFormat
  debug : Bool

/-- The path that an option names; an empty value names none. -/
def namedPath? (given : Option (Given LooseText)) : Option Path :=
  ((given.bind Given.value?).filter (!·.isEmpty)).map Path.ofText

namespace Settings

/-- A fault in the configuration file of a path. -/
def fault (path : Path) (found : Config.Fault) : Problem :=
  .fault ⟨found, some path⟩

/-- A setting of a kind; a setting that is missing is none. -/
def setting (path : Path) (name kind : String) (ofKind? : Value → Option α) :
    Option Value → Except Problem (Option α)
  | none => .ok none
  | some value =>
      match ofKind? value with
      | some held => .ok (some held)
      | none => .error (fault path (.wrongKind name kind))

/-- The entries of a table. -/
def table? : Value → Option Table
  | .table entries => some entries
  | _ => none

/-- The text of a text value. -/
def text? : Value → Option String
  | .text held => some held
  | _ => none

/-- The truth of a truth value. -/
def flag? : Value → Option Bool
  | .flag held => some held
  | _ => none

/-- The theme of a name in the configuration. -/
def themeOf (path : Path) (name : String) : Except Problem Theme :=
  (Theme.ofName name).mapError fun found => fault path (.theme found)

/-- The theme that an option names.  A fault in it is in no file. -/
def themeOfOption : Given String → Except Problem Theme
  | .value name => (Theme.ofName name).mapError fun found => .fault ⟨.theme found, none⟩
  | .nothing => .error (.failure .themeMissing)

/-- A theme with the colours of the configuration. -/
def colour (path : Path) (theme : Theme) (colours : Table) : Except Problem Theme :=
  (theme.withOverrides colours).mapError fun
    | .theme found => fault path (.theme found)
    | .unshown obstacle => .failure (.unshown obstacle)
    | .unstyled missing => .failure (.unstyled missing)

/-- The settings of a command line with the configuration of a path. -/
def ofConfig (arguments : Arguments) (path : Path) (config : Table) :
    Except Problem Settings := do
  let highlighting ← setting path "[highlight]" "a table" table? (config.get? "highlight")
  let chosen := highlighting.getD []
  let language ←
    setting path "highlight.language" "a string" text? (chosen.get? "language")
  let named ← setting path "highlight.theme" "a string" text? (chosen.get? "theme")
  let configured ←
    match named with
    | none => .ok Theme.standard
    | some name => themeOf path name
  let base ←
    match arguments.theme with
    | none => .ok configured
    | some given => themeOfOption given
  let looks ← setting path "[theme]" "a table" table? (config.get? "theme")
  let colours ←
    setting path "[theme.colors]" "a table" table? ((looks.getD []).get? "colors")
  let theme ← colour path base (colours.getD [])
  let numbered ←
    setting path "highlight.line_numbers" "true or false" flag?
      (chosen.get? "line_numbers")
  .ok {
    input := .ofText arguments.input
    output := namedPath? arguments.output
    language := arguments.language.or (language.map .value)
    theme := theme
    lineNumbers := (arguments.lineNumbers.or numbered).getD true
    format := arguments.format
    debug := arguments.debug }

/-- The settings of a command line. -/
def resolve (files : FileSystem) (arguments : Arguments) : Except Problem Settings := do
  let path :=
    Config.filePath (namedPath? arguments.config) (.ofText arguments.input)
  ofConfig arguments path (← Config.load files path)

end Settings

end Highlighter.CommandLine
