import Highlighter.CommandLine.Arguments
import Highlighter.Config.Display

/-!
# Messages about the use of the command line

The usage is shown in front of every message about a refused command line, and at the
head of the help.
-/

namespace Highlighter.CommandLine

/-- The formats that can be chosen, in braces. -/
def formatChoices : Text :=
  '\x7b' :: [','].intercalate (OutputFormat.named.map (·.1.toList)) ++ ['\x7d']

/-- Lines, each with its end. -/
def textLines (lines : List Text) : Text :=
  lines.flatMap (· ++ ['\n'])

/-- How the command line is written. -/
def usage : Text :=
  textLines
    ["usage: codelex [-h] [-o OUTPUT] [-l HINT] [--theme NAME] [--config FILE]".toList,
      "               [--line-numbers | --no-line-numbers] [--format ".toList ++
        formatChoices ++ [']'],
      "               [--debug]".toList,
      "               input".toList]

/-- The help. -/
def help : Text :=
  usage ++
    textLines
      ["".toList,
        "Syntax-highlight a source file".toList,
        "".toList,
        "positional arguments:".toList,
        "  input                 Input source file".toList,
        "".toList,
        "options:".toList,
        "  -h, --help            show this help message and exit".toList,
        "  -o OUTPUT, --output OUTPUT".toList,
        "                        Output file (default: stdout)".toList,
        "  -l HINT, --lang HINT  Language hint, e.g. sql, rs, py (default: detect from".toList,
        "                        content)".toList,
        "  --theme NAME          Colour theme (default: monokai)".toList,
        "  --config FILE         Config file (default: auto-discover codelex.toml)".toList,
        "  --line-numbers, --no-line-numbers".toList,
        "                        Show the line-number gutter (default: on)".toList,
        "  --format ".toList ++ formatChoices,
        "                        Output an HTML document or a token listing (default:".toList,
        "                        html)".toList,
        "  --debug               Dump tokens to stderr".toList]

namespace UsageFault

/-- A message about one option. -/
def aboutFlag (flag : Flag) (said : Text) : Text :=
  "argument ".toList ++ flag.name ++ ':' :: ' ' :: said

/-- The message of a fault. -/
def message : UsageFault → Text
  | ambiguous written candidates =>
      "ambiguous option: ".toList ++ written.shown ++ " could match ".toList ++
        Config.commaSeparated (candidates.map (·.written.toList))
  | valueExpected flag => aboutFlag flag "expected one argument".toList
  | valueIgnored flag value =>
      aboutFlag flag ("ignored explicit argument ".toList ++ value.literal)
  | invalidFormat value =>
      aboutFlag .format
        ("invalid choice: ".toList ++ value.literal ++ " (choose from ".toList ++
          Config.commaSeparated (OutputFormat.named.map fun (name, _) => Quoted.literal name) ++
          [')'])
  | inputRequired => "the following arguments are required: input".toList
  | unrecognized written =>
      "unrecognized arguments: ".toList ++ [' '].intercalate (written.map LooseText.shown)

/-- What is shown about a refused command line. -/
def report (fault : UsageFault) : Text :=
  usage ++ "codelex: error: ".toList ++ fault.message ++ ['\n']

end UsageFault

end Highlighter.CommandLine
