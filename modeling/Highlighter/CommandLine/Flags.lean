import Highlighter.Text.DecimalDigit
import Highlighter.Text.Loose

/-!
# The options of the command line and how they are written

An option has a long spelling, some have a short one as well, and the one for line
numbers has a spelling that turns it off.  A long spelling may be cut short as long as
only one option is left, and a value may follow it after an equals sign; the value of a
short spelling may follow it directly.

`classify` decides what one argument is, without a look at the others.

Command lines are read as argparse reads them in the releases of 3.11 before 3.11.10.  From
there on a value `--` that is attached to its option is that text and not nothing, and what
is attached to the switch for help is divided in another way.
-/

namespace Highlighter.CommandLine

/-- An option of the command line. -/
inductive Flag where
  | help
  | output
  | language
  | theme
  | config
  | lineNumbers
  | format
  | debug
  deriving DecidableEq, Repr

/-- One way to write an option. -/
inductive Spelling where
  | shortHelp
  | help
  | shortOutput
  | output
  | shortLanguage
  | language
  | theme
  | config
  | lineNumbers
  | noLineNumbers
  | format
  | debug
  deriving DecidableEq, Repr

namespace Spelling

/-- All spellings, in the order in which they are listed. -/
def all : List Spelling :=
  [shortHelp, help, shortOutput, output, shortLanguage, language, theme, config,
    lineNumbers, noLineNumbers, format, debug]

/-- How a spelling is written. -/
def written : Spelling → String
  | shortHelp => "-h"
  | help => "--help"
  | shortOutput => "-o"
  | output => "--output"
  | shortLanguage => "-l"
  | language => "--lang"
  | theme => "--theme"
  | config => "--config"
  | lineNumbers => "--line-numbers"
  | noLineNumbers => "--no-line-numbers"
  | format => "--format"
  | debug => "--debug"

/-- The option that a spelling stands for. -/
def flag : Spelling → Flag
  | shortHelp | help => .help
  | shortOutput | output => .output
  | shortLanguage | language => .language
  | theme => .theme
  | config => .config
  | lineNumbers | noLineNumbers => .lineNumbers
  | format => .format
  | debug => .debug

/-- Whether a spelling starts with a single hyphen. -/
def isShort : Spelling → Bool
  | shortHelp | shortOutput | shortLanguage => true
  | _ => false

/-- The spelling that is written in a given way. -/
def ofText? (text : LooseText) : Option Spelling :=
  all.find? fun spelling => LooseText.ofString spelling.written == text

end Spelling

namespace Flag

/-- Whether an option takes a value. -/
def takesValue : Flag → Bool
  | output | language | theme | config | format => true
  | help | lineNumbers | debug => false

/-- The name of an option in messages: its spellings with slashes between them. -/
def name (flag : Flag) : Text :=
  ['/'].intercalate
    ((Spelling.all.filter (·.flag == flag)).map fun spelling => spelling.written.toList)

end Flag

/-- What one argument is. -/
inductive Item where
  /-- Neither an option nor the mark that ends the options. -/
  | plain (value : LooseText)
  /-- The mark that ends the options. -/
  | separator
  /-- An option, with what follows it in the same argument. -/
  | option (spelling : Spelling) (attached : Option LooseText)
  /-- Something that looks like an option and is none. -/
  | unknown (written : LooseText)
  deriving DecidableEq, Repr

/-- Why a command line is refused. -/
inductive UsageFault where
  | ambiguous (written : LooseText) (candidates : List Spelling)
  | valueExpected (flag : Flag)
  | valueIgnored (flag : Flag) (value : LooseText)
  | invalidFormat (value : LooseText)
  | inputRequired
  | unrecognized (written : List LooseText)
  deriving DecidableEq, Repr

/-- An argument with an equals sign in it as an option and what is attached to it. -/
def splitEquals (argument : LooseText) : LooseText × Option LooseText :=
  match argument.dropWhile (· != .scalar '=') with
  | [] => (argument, none)
  | _ :: value => (argument.takeWhile (· != .scalar '='), some value)

/-- The spellings that an argument may be short for, with what is attached to them. -/
def candidates (argument : LooseText) : List (Spelling × Option LooseText) :=
  if (LooseText.ofString "--").isPrefixOf argument then
    let (start, attached) := splitEquals argument
    (Spelling.all.filter fun spelling =>
      start.isPrefixOf (LooseText.ofString spelling.written)).map (·, attached)
  else
    (Spelling.all.filter fun spelling => LooseText.ofString spelling.written == argument.take 2).map
      (·, some (argument.drop 2))

/-- Whether a text is not empty and consists of digits. -/
def areDigits (text : Text) : Bool :=
  !text.isEmpty && text.all fun c => (digitValue? c).isSome

/-- A text without a line feed at its end. -/
def withoutLineEnd (text : Text) : Text :=
  if text.getLast? = some '\n' then text.dropLast else text

/-- Whether an argument is a negative number: a hyphen and digits, or a hyphen and a
point with digits after it and perhaps before it. -/
def isNegativeNumber (argument : Text) : Bool :=
  match withoutLineEnd argument with
  | '-' :: number =>
      match Text.splitAt? '.' number with
      | none => areDigits number
      | some (whole, places) => (whole.isEmpty || areDigits whole) && areDigits places
  | _ => false

/-- What an argument is that starts with a hyphen and has more characters. -/
def classifyHyphened (argument : LooseText) : Except UsageFault Item :=
  let (start, attached) := splitEquals argument
  match Spelling.ofText? start with
  | some spelling => .ok (.option spelling attached)
  | none =>
      match candidates argument with
      | [(spelling, attached)] => .ok (.option spelling attached)
      | [] =>
          .ok (if isNegativeNumber argument.scanned || argument.contains (.scalar ' ') then
            .plain argument
          else .unknown argument)
      | several => .error (.ambiguous argument (several.map (·.1)))

/-- What an argument is that no separator precedes. -/
def classify : LooseText → Except UsageFault Item
  | [.scalar '-', .scalar '-'] => .ok .separator
  | .scalar '-' :: point :: rest => classifyHyphened (.scalar '-' :: point :: rest)
  | argument => .ok (.plain argument)

/-- What each argument is.  After the separator none is an option. -/
def classifyAll : List LooseText → Except UsageFault (List Item)
  | [] => .ok []
  | argument :: later => do
      match ← classify argument with
      | .separator => .ok (.separator :: later.map Item.plain)
      | item => .ok (item :: (← classifyAll later))

end Highlighter.CommandLine
