import Highlighter.CommandLine.Settings
import Highlighter.CommandLine.Usage
import Highlighter.Detection
import Highlighter.Files.Source
import Highlighter.Listing
import Highlighter.Markup

/-!
# Running a command line

A run reads the input, highlights it and writes the result to a file or to standard
output.  It ends with the code two if the configuration is at fault, one if the input
cannot be read or the output cannot be written, and zero otherwise.  Nothing is
written to a file or to standard output unless the code is zero; warnings and the
listing for debugging go to standard error.

Standard output and standard error take every text.  Standard error shows a surrogate as
its escape; there is none in what is written to standard output.
-/

namespace Highlighter.CommandLine

/-- How a run ends. -/
inductive Ending where
  | code (code : Nat)
  /-- The command line itself ended the run: zero for help, two if it was refused. -/
  | usage (code : Nat)
  | failure (failure : Failure)

/-- What a run leaves behind. -/
structure Outcome where
  ending : Ending
  /-- What was written to standard output. -/
  output : Text
  /-- What was written to standard error. -/
  messages : Text
  files : FileSystem

/-- The warning about a hint that names no language. -/
def hintWarning (hint : Option Text) : Text :=
  match hint with
  | none => []
  | some hint =>
      if (Language.ofHint? hint).isSome then []
      else
        "warning: unknown language '".toList ++ hint ++
          "', detecting from content\n".toList

/-- What is written about a source. -/
def written (settings : Settings) (language : Language) (tokens : List Token) :
    Except Failure Text :=
  match settings.format with
  | .value .tokens => .ok (Listing.lines tokens)
  | .value .page | .nothing =>
      match Markup.renderBlock settings.theme (some language) settings.lineNumbers tokens with
      | .error missing => .error (.unstyled missing)
      | .ok block => .ok (Markup.renderDocument (some settings.input.name) [block])

/-- Deliver a text: to the output file, or to standard output. -/
def deliver (files : FileSystem) (output : Option Path) (messages text : Text) : Outcome :=
  match output with
  | none => ⟨.code 0, text, messages, files⟩
  | some path =>
      match files.write path (Utf8.encode text) with
      | .ok after => ⟨.code 0, [], messages, after⟩
      | .error fault =>
          if fault.isSystemError then
            let complaint :=
              "error: cannot write ".toList ++ path.toText.shown ++ ':' :: ' ' ::
                fault.message path
            ⟨.code 1, [], messages ++ complaint ++ ['\n'], files⟩
          else ⟨.failure (.file path fault), [], messages, files⟩

/-- The hint about the language. -/
def Settings.hint (settings : Settings) : Except Failure (Option Text) :=
  match settings.language with
  | none => .ok none
  | some (.value name) => .ok (some name.toList)
  | some .nothing => .error .hintMissing

/-- Highlight a source with a hint and deliver the result. -/
def processWith (files : FileSystem) (settings : Settings) (source : Text)
    (hint : Option Text) : Outcome :=
  let (language, tokens) := highlightBlock source hint
  let messages :=
    hintWarning hint ++
      if settings.debug then Listing.report (some language) tokens else []
  match written settings language tokens with
  | .error failure => ⟨.failure failure, [], messages, files⟩
  | .ok text => deliver files settings.output messages text

/-- Highlight a source and deliver the result. -/
def process (files : FileSystem) (settings : Settings) (source : Text) : Outcome :=
  match settings.hint with
  | .error failure => ⟨.failure failure, [], [], files⟩
  | .ok hint => processWith files settings source hint

/-- Run with settings. -/
def execute (files : FileSystem) (settings : Settings) : Outcome :=
  match files.readSource settings.input with
  | .ok source => process files settings source
  | .error unreadable =>
      match unreadable.pathFault? with
      | some fault => ⟨.failure (.file settings.input fault), [], [], files⟩
      | none =>
          let complaint :=
            "error: cannot read ".toList ++ settings.input.toText.shown ++ ':' :: ' ' ::
              unreadable.message settings.input
          ⟨.code 1, [], complaint ++ ['\n'], files⟩

/-- Run with arguments. -/
def runWith (files : FileSystem) (arguments : Arguments) : Outcome :=
  match Settings.resolve files arguments with
  | .error (.fault found) => ⟨.code 2, [], found.report.format ++ ['\n'], files⟩
  | .error (.failure failure) => ⟨.failure failure, [], [], files⟩
  | .ok settings => execute files settings

/-- Run a command line. -/
def run (files : FileSystem) (arguments : List LooseText) : Outcome :=
  match read arguments with
  | .error fault => ⟨.usage 2, [], fault.report, files⟩
  | .ok .help => ⟨.usage 0, help, [], files⟩
  | .ok (.run asked) => runWith files asked

end Highlighter.CommandLine
