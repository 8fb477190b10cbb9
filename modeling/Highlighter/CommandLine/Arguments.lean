import Highlighter.CommandLine.Flags

/-!
# Reading the arguments of the command line

Arguments are read from left to right.  The first plain one is the input; an option
that is given twice counts the last time.  What cannot be placed is collected and
refused at the end, after a missing input.  Asking for help ends the reading at once,
but a fault in front of it comes first.

Paths are kept as they are given.  The names of a language and of a theme are kept as
messages show them: the names that are known hold no backslash, so a name with a surrogate
is unknown as it should be.
-/

namespace Highlighter.CommandLine

/-- What is written about a source. -/
inductive OutputFormat where
  /-- A page with the highlighted source. -/
  | page
  /-- A listing of its tokens. -/
  | tokens
  deriving DecidableEq, Repr

namespace OutputFormat

/-- The formats that can be chosen, by their names. -/
def named : List (String × OutputFormat) :=
  [("html", page), ("tokens", tokens)]

end OutputFormat

/-- What an option was given: a value, or nothing if the separator was attached to it. -/
inductive Given (α : Type) where
  | value (held : α)
  | nothing
  deriving DecidableEq, Repr

namespace Given

/-- The value that was given, if any. -/
def value? : Given α → Option α
  | value held => some held
  | nothing => none

/-- What was given, with a change to its value. -/
def map (change : α → β) : Given α → Given β
  | value held => value (change held)
  | nothing => nothing

/-- What a text gives that is attached to an option.  The separator is taken out of the values
of an option, and alone it leaves nothing.  (So it is before argparse 3.11.10, which leaves
the separator in.) -/
def ofAttached (text : LooseText) : Given LooseText :=
  if text = "--" then nothing else value text

end Given

/-- What a command line asks for. -/
structure Arguments where
  input : LooseText
  output : Option (Given LooseText)
  language : Option (Given String)
  theme : Option (Given String)
  config : Option (Given LooseText)
  lineNumbers : Option Bool
  format : Given OutputFormat
  debug : Bool
  deriving DecidableEq, Repr

/-- An option that waits for its value in the next argument, with the switches that were
written in front of it in its own argument. -/
structure Waiting where
  switches : List Spelling
  flag : Flag
  deriving DecidableEq, Repr

/-- What a command line has asked for so far. -/
structure Progress where
  input : Option LooseText
  /-- Everything but the input. -/
  arguments : Arguments
  /-- Arguments that have no place. -/
  extras : List LooseText
  waiting : Option Waiting
  /-- Whether the argument before was the input. -/
  afterInput : Bool
  deriving DecidableEq, Repr

/-- Nothing is asked for yet. -/
def Progress.empty : Progress :=
  ⟨none, ⟨[], none, none, none, none, none, .value .page, false⟩, [], none, false⟩

/-- What a command line comes to. -/
inductive Command where
  | help
  | run (arguments : Arguments)
  deriving DecidableEq, Repr

/-- The effect of an option without a value. -/
def Arguments.switch (arguments : Arguments) : Spelling → Arguments
  | .lineNumbers => { arguments with lineNumbers := some true }
  | .noLineNumbers => { arguments with lineNumbers := some false }
  | .debug => { arguments with debug := true }
  | _ => arguments

/-- The format of what was given; only a value can be at fault. -/
def OutputFormat.ofGiven : Given LooseText → Except UsageFault (Given OutputFormat)
  | .nothing => .ok .nothing
  | .value name =>
      match named.find? fun (known, _) => LooseText.ofString known == name with
      | some (_, format) => .ok (.value format)
      | none => .error (.invalidFormat name)

/-- A name as messages show it. -/
def shownName (name : LooseText) : String :=
  String.ofList name.shown

/-- The effect of an option with a value. -/
def Arguments.assign (arguments : Arguments) (given : Given LooseText) :
    Flag → Except UsageFault Arguments
  | .output => .ok { arguments with output := some given }
  | .language => .ok { arguments with language := some (given.map shownName) }
  | .theme => .ok { arguments with theme := some (given.map shownName) }
  | .config => .ok { arguments with config := some given }
  | .format => (OutputFormat.ofGiven given).map fun format => { arguments with format := format }
  | .help | .lineNumbers | .debug => .ok arguments

/-- What an argument with an option comes to: the switches in it and the option after them
that takes a value, with the value if it stands in the same argument. -/
structure Cluster where
  switches : List Spelling
  valued : Option (Flag × Option (Given LooseText))
  deriving DecidableEq, Repr

namespace Cluster

/-- One option with nothing attached to it. -/
def single (spelling : Spelling) : Cluster :=
  if spelling.flag.takesValue then ⟨[], some (spelling.flag, none)⟩
  else ⟨[spelling], none⟩

/-- A cluster with a switch in front. -/
def prepend (spelling : Spelling) (later : Cluster) : Cluster :=
  { later with switches := spelling :: later.switches }

/-- An option with a text attached to it.  A text after a short switch is a row of further
short options, whether an equals sign stands between or not; no other switch takes a
text.  (From argparse 3.11.10 on an equals sign ends the row, and the switch for help is
obeyed whatever follows it.) -/
def ofAttached (spelling : Spelling) : LooseText → Except UsageFault Cluster
  | [] =>
      if spelling.flag.takesValue then .ok ⟨[], some (spelling.flag, some (.value []))⟩
      else .error (.valueIgnored spelling.flag [])
  | point :: rest =>
      if spelling.flag.takesValue then
        .ok ⟨[], some (spelling.flag, some (.ofAttached (point :: rest)))⟩
      else
        match if spelling.isShort then Spelling.ofText? [.scalar '-', point] else none, rest with
        | none, _ => .error (.valueIgnored spelling.flag (point :: rest))
        | some next, [] => .ok ((single next).prepend spelling)
        | some next, other :: value =>
            (ofAttached next (other :: value)).map (prepend spelling)

/-- An option with what is attached to it, if anything. -/
def ofOption (spelling : Spelling) : Option LooseText → Except UsageFault Cluster
  | none => .ok (single spelling)
  | some attached => ofAttached spelling attached

end Cluster

/-- Take switches and perhaps a value for an option.  There is no result when a switch asks
for help. -/
def Arguments.take (arguments : Arguments) (switches : List Spelling)
    (assigned : Option (Flag × Given LooseText)) : Except UsageFault (Option Arguments) :=
  if switches.any (·.flag == .help) then .ok none
  else
    let switched := switches.foldl Arguments.switch arguments
    match assigned with
    | none => .ok (some switched)
    | some (flag, given) => (switched.assign given flag).map some

namespace Progress

/-- Set an argument aside that has no place. -/
def setAside (progress : Progress) (written : LooseText) : Progress :=
  { progress with extras := progress.extras ++ [written], afterInput := false }

/-- Go on with the arguments that an option leaves, if it does not ask for help. -/
def proceed (progress : Progress) (taken : Option Arguments) : Option Progress :=
  taken.map fun arguments =>
    { progress with arguments := arguments, waiting := none, afterInput := false }

/-- Take an argument that is an option. -/
def takeOption (progress : Progress) (options : Cluster) :
    Except UsageFault (Option Progress) :=
  match options.valued with
  | some (flag, none) =>
      .ok (some
        { progress with waiting := some ⟨options.switches, flag⟩, afterInput := false })
  | some (flag, some given) =>
      (progress.arguments.take options.switches (some (flag, given))).map progress.proceed
  | none => (progress.arguments.take options.switches none).map progress.proceed

/-- Take one argument when no option waits for a value.  A separator next to the input
goes with it. -/
def takeItem (progress : Progress) : Item → Except UsageFault (Option Progress)
  | .unknown written => .ok (some (progress.setAside written))
  | .separator =>
      .ok (some (
        if progress.input.isNone || progress.afterInput then
          { progress with afterInput := false }
        else progress.setAside "--"))
  | .plain value =>
      .ok (some (
        if progress.input.isNone then
          { progress with input := some value, afterInput := true }
        else progress.setAside value))
  | .option spelling attached => do
      progress.takeOption (← Cluster.ofOption spelling attached)

/-- Take one argument.  There is no result when it asks for help. -/
def step (progress : Progress) (item : Item) : Except UsageFault (Option Progress) :=
  match progress.waiting, item with
  | none, _ => progress.takeItem item
  | some waiting, .plain value =>
      (progress.arguments.take waiting.switches (some (waiting.flag, .value value))).map
        progress.proceed
  | some waiting, _ => .error (.valueExpected waiting.flag)

/-- What a command line comes to at its end. -/
def finish (progress : Progress) : Except UsageFault Command :=
  match progress.waiting, progress.input with
  | some waiting, _ => .error (.valueExpected waiting.flag)
  | none, none => .error .inputRequired
  | none, some input =>
      if progress.extras.isEmpty then
        .ok (.run { progress.arguments with input := input })
      else .error (.unrecognized progress.extras)

/-- What a command line comes to from here on. -/
def complete (progress : Progress) : List Item → Except UsageFault Command
  | [] => progress.finish
  | item :: later => do
      match ← progress.step item with
      | none => .ok .help
      | some next => next.complete later

end Progress

/-- What a command line asks for. -/
def read (arguments : List LooseText) : Except UsageFault Command := do
  Progress.empty.complete (← classifyAll arguments)

end Highlighter.CommandLine
