import Highlighter.CommandLine.Run
import Highlighter.Proofs.RenderedMarkup
import Highlighter.Proofs.SettingsChecks
import Highlighter.Proofs.StoredText

/-!
# How runs end

A run goes through the configuration, the settings, the input, the hint and the output, and
the first of them that is at fault decides how it ends.  `Loads` tells what comes of the
configuration file and `Ends` what comes of the run, both from what stands in the files and
in the arguments alone.

A run that is asked for something has exactly one ending.  It is a code for everything that
is reported; the endings without a code are listed by the constructors whose names end in
`Failure`.
-/

namespace Highlighter.CommandLine

open Config (Table Problem)
open Settings (Check)

/-! ## The configuration file -/

/-- The text of a file is text. -/
def TextAt (files : FileSystem) (path : Path) (text : Text) : Prop :=
  ∃ bytes, files.read path = .ok bytes ∧ Utf8.decode bytes = .ok text

/-- What a configuration file with a document comes to that the reader refuses. -/
inductive Refuses (path : Path) (document : Text) (rejection : Toml.Rejection) :
    Problem → Prop
  | fault (number : ∀ digits, rejection.fault ≠ .oversizedInteger digits)
      (depth : rejection.fault ≠ .deepNesting)
      (short : ∀ digits ∈ Toml.lineDigits? (rejection.message document),
        digits.length ≤ Config.digitLimit) :
      Refuses path document rejection
        (.fault ⟨.refused (rejection.message document)
          ((Toml.lineDigits? (rejection.message document)).map Toml.numberOfDigits), some path⟩)
  | numberFailure {digits : Nat} (number : rejection.fault = .oversizedInteger digits) :
      Refuses path document rejection (.failure (.digits digits))
  | depthFailure (depth : rejection.fault = .deepNesting) :
      Refuses path document rejection (.failure .deepDocument)
  | lineFailure {digits : List Nat} (number : ∀ digits, rejection.fault ≠ .oversizedInteger digits)
      (depth : rejection.fault ≠ .deepNesting)
      (mentioned : Toml.lineDigits? (rejection.message document) = some digits)
      (long : Config.digitLimit < digits.length) :
      Refuses path document rejection (.failure (.digits digits.length))

/-- What comes of a configuration file. -/
inductive Loads (files : FileSystem) (path : Path) : Except Problem Table → Prop
  | absent (noFile : files.isFile path = .ok false) : Loads files path (.ok [])
  | document {text : Text} {config : Table} (held : TextAt files path text)
      (accepted : Toml.read (Text.pairsAsLineFeeds text) = .ok config) :
      Loads files path (.ok config)
  | refused {text : Text} {rejection : Toml.Rejection} {problem : Problem}
      (held : TextAt files path text)
      (refused : Toml.read (Text.pairsAsLineFeeds text) = .error rejection)
      (reported : Refuses path (Text.pairsAsLineFeeds text) rejection problem) :
      Loads files path (.error problem)
  | searchFailure {fault : FileFault} (unknown : files.isFile path = .error fault) :
      Loads files path (.error (.failure (.file path fault)))
  | readFailure {fault : FileFault} (isFile : files.isFile path = .ok true)
      (unread : files.read path = .error fault) :
      Loads files path (.error (.failure (.file path fault)))
  | bytesFailure {bytes : Utf8.Bytes} {fault : Utf8.Fault}
      (held : files.read path = .ok bytes) (undecoded : Utf8.decode bytes = .error fault) :
      Loads files path (.error (.failure (.encoding fault)))

/-- A document is refused with the problem that `Refuses` tells. -/
theorem rejectionProblem_eq_iff {path : Path} {document : Text} {rejection : Toml.Rejection}
    {problem : Problem} :
    Config.rejectionProblem path document rejection = problem ↔
      Refuses path document rejection problem := by
  constructor
  · rintro rfl
    unfold Config.rejectionProblem
    split
    · next digits number => exact .numberFailure number
    · next depth => exact .depthFailure depth
    · next number depth =>
        have reported := @Refuses.fault path document rejection number depth
        cases mentioned : Toml.lineDigits? (rejection.message document) with
        | none => simpa [mentioned] using reported
        | some digits =>
            by_cases long : Config.digitLimit < digits.length
            · simpa [mentioned, long] using Refuses.lineFailure number depth mentioned long
            · simpa [mentioned, long, Nat.not_lt.mp long] using reported
  · intro reported
    unfold Config.rejectionProblem
    cases reported with
    | numberFailure number => simp [number]
    | depthFailure depth => simp [depth]
    | fault number depth short =>
        split
        · next digits found => exact absurd found (number digits)
        · next found => exact absurd found depth
        · cases mentioned : Toml.lineDigits? (rejection.message document) with
          | none => simp [mentioned]
          | some digits => simp [mentioned, Nat.not_lt.mpr (short digits mentioned)]
    | lineFailure number depth mentioned long =>
        split
        · next digits found => exact absurd found (number digits)
        · next found => exact absurd found depth
        · simp [mentioned, long]

theorem mapError_ok {α β γ : Type} (value : α) (change : β → γ) :
    (Except.ok value).mapError change = .ok value :=
  rfl

theorem mapError_error {α β γ : Type} (fault : β) (change : β → γ) :
    (Except.error fault : Except β α).mapError change = .error (change fault) :=
  rfl

section

variable {files : FileSystem} {path : Path}

/-- Only a file can be read. -/
theorem isFile_of_read {bytes : Utf8.Bytes} (held : files.read path = .ok bytes) :
    files.isFile path = .ok true := by
  unfold FileSystem.read FileSystem.contentOf at held
  unfold FileSystem.isFile
  cases located : files.locate path with
  | error fault =>
      rw [located] at held
      contradiction
  | ok location =>
      simp only [located, bind, Except.bind] at held
      split at held
      · contradiction
      · split at held
        · contradiction
        · contradiction
        · next there => simp only [there]

theorem load_of_unknown {fault : FileFault} (unknown : files.isFile path = .error fault) :
    Config.load files path = .error (.failure (.file path fault)) := by
  unfold Config.load Config.fileBytes?
  rw [unknown]
  rfl

theorem load_of_absent (noFile : files.isFile path = .ok false) :
    Config.load files path = .ok [] := by
  unfold Config.load Config.fileBytes?
  rw [noFile]
  rfl

theorem load_of_unread {fault : FileFault} (isFile : files.isFile path = .ok true)
    (unread : files.read path = .error fault) :
    Config.load files path = .error (.failure (.file path fault)) := by
  unfold Config.load Config.fileBytes?
  rw [isFile, unread]
  rfl

/-- The bytes of a configuration file are decoded. -/
theorem load_of_read {bytes : Utf8.Bytes} (held : files.read path = .ok bytes) :
    Config.load files path = (do
      let text ← (Utf8.decode bytes).mapError fun fault => .failure (.encoding fault)
      (Toml.read (Text.pairsAsLineFeeds text)).mapError
        (Config.rejectionProblem path (Text.pairsAsLineFeeds text))) := by
  unfold Config.load Config.fileBytes?
  rw [isFile_of_read held, held]
  rfl

theorem load_of_undecoded {bytes : Utf8.Bytes} {fault : Utf8.Fault}
    (held : files.read path = .ok bytes) (undecoded : Utf8.decode bytes = .error fault) :
    Config.load files path = .error (.failure (.encoding fault)) := by
  rw [load_of_read held, undecoded]
  rfl

theorem load_of_textAt {text : Text} (held : TextAt files path text) :
    Config.load files path =
      (Toml.read (Text.pairsAsLineFeeds text)).mapError
        (Config.rejectionProblem path (Text.pairsAsLineFeeds text)) := by
  obtain ⟨bytes, read, decoded⟩ := held
  rw [load_of_read read, decoded]
  rfl

/-- A configuration file comes to what `Loads` tells. -/
theorem load_eq_iff {result : Except Problem Table} :
    Config.load files path = result ↔ Loads files path result := by
  constructor
  · rintro rfl
    cases known : files.isFile path with
    | error fault =>
        rw [load_of_unknown known]
        exact .searchFailure known
    | ok isFile =>
        cases isFile with
        | false =>
            rw [load_of_absent known]
            exact .absent known
        | true =>
            cases held : files.read path with
            | error fault =>
                rw [load_of_unread known held]
                exact .readFailure known held
            | ok bytes =>
                cases decoded : Utf8.decode bytes with
                | error fault =>
                    rw [load_of_undecoded held decoded]
                    exact .bytesFailure held decoded
                | ok text =>
                    have textAt : TextAt files path text := ⟨bytes, held, decoded⟩
                    rw [load_of_textAt textAt]
                    cases read : Toml.read (Text.pairsAsLineFeeds text) with
                    | ok config => exact .document textAt read
                    | error rejection =>
                        exact .refused textAt read (rejectionProblem_eq_iff.mp rfl)
  · intro loads
    cases loads with
    | absent noFile => exact load_of_absent noFile
    | document held accepted =>
        rw [load_of_textAt held, accepted]
        rfl
    | refused held refused reported =>
        rw [load_of_textAt held, refused]
        exact congrArg Except.error (rejectionProblem_eq_iff.mpr reported)
    | searchFailure unknown => exact load_of_unknown unknown
    | readFailure isFile unread => exact load_of_unread isFile unread
    | bytesFailure held undecoded => exact load_of_undecoded held undecoded

end

/-! ## The settings -/

/-- The path of the configuration file of a command line. -/
def Arguments.configPath (arguments : Arguments) : Path :=
  Config.filePath (namedPath? arguments.config) (.ofText arguments.input)

/-- There is a configuration and all checks hold. -/
def Configured (files : FileSystem) (asked : Arguments) : Prop :=
  ∃ config, Loads files asked.configPath (.ok config) ∧
    ∀ check : Check, check.Holds asked config

/-- What is reported about the configuration: a problem of the file, or the first check that
does not hold. -/
inductive Misconfigured (files : FileSystem) (asked : Arguments) : Problem → Prop
  | file {problem : Problem} (unloaded : Loads files asked.configPath (.error problem)) :
      Misconfigured files asked problem
  | check {config : Table} {check : Check} {problem : Problem}
      (loaded : Loads files asked.configPath (.ok config))
      (first : check.FirstViolated asked config)
      (reported : check.Reports asked asked.configPath config problem) :
      Misconfigured files asked problem

section

variable {files : FileSystem} {asked : Arguments}

theorem resolve_of_loads {config : Table} (loaded : Loads files asked.configPath (.ok config)) :
    Settings.resolve files asked = Settings.ofConfig asked asked.configPath config := by
  change (Config.load files asked.configPath >>= _) = _
  rw [load_eq_iff.mpr loaded]
  rfl

theorem resolve_of_configured (configured : Configured files asked) :
    ∃ config settings, Settings.Merged asked config settings ∧
      Settings.resolve files asked = .ok settings := by
  obtain ⟨config, loaded, hold⟩ := configured
  obtain ⟨settings, same⟩ := Settings.ofConfig_isOk_iff.mpr hold
  exact ⟨config, settings, Settings.merged_of_ofConfig_eq_ok same,
    (resolve_of_loads loaded).trans same⟩

theorem resolve_of_misconfigured {problem : Problem}
    (misconfigured : Misconfigured files asked problem) :
    Settings.resolve files asked = .error problem := by
  cases misconfigured with
  | file unloaded =>
      change (Config.load files asked.configPath >>= _) = _
      rw [load_eq_iff.mpr unloaded]
      rfl
  | check loaded first reported =>
      rw [resolve_of_loads loaded]
      exact Settings.ofConfig_eq_error_iff.mpr ⟨_, first, reported⟩

theorem configured_or_misconfigured (files : FileSystem) (asked : Arguments) :
    Configured files asked ∨ ∃ problem, Misconfigured files asked problem := by
  cases loaded : Config.load files asked.configPath with
  | error problem => exact .inr ⟨problem, .file (load_eq_iff.mp loaded)⟩
  | ok config =>
      have loads := load_eq_iff.mp loaded
      cases found : Settings.ofConfig asked asked.configPath config with
      | ok settings => exact .inl ⟨config, loads, Settings.ofConfig_isOk_iff.mp ⟨_, found⟩⟩
      | error problem =>
          obtain ⟨check, first, reported⟩ := Settings.ofConfig_eq_error_iff.mp found
          exact .inr ⟨problem, .check loads first reported⟩

/-- There are settings exactly if there is a configuration and all checks hold. -/
theorem configured_iff_isOk_resolve :
    Configured files asked ↔ (Settings.resolve files asked).isOk = true := by
  constructor
  · intro configured
    obtain ⟨_, _, _, resolved⟩ := resolve_of_configured configured
    rw [resolved]
    rfl
  · intro resolved
    rcases configured_or_misconfigured files asked with configured | ⟨problem, misconfigured⟩
    · exact configured
    · rw [resolve_of_misconfigured misconfigured] at resolved
      contradiction

/-! ## The output -/

/-- How the delivery of a text ends. -/
inductive Delivers (files : FileSystem) : Option Path → Ending → Prop
  | printed : Delivers files none (.code 0)
  | written {path : Path}
      (writable : ∀ content, ∃ after, files.write path content = .ok after) :
      Delivers files (some path) (.code 0)
  | unwritable {path : Path} {fault : FileFault}
      (unwritable : ∀ content, files.write path content = .error fault)
      (system : fault.isSystemError = true) : Delivers files (some path) (.code 1)
  | pathFailure {path : Path} {fault : FileFault}
      (unwritable : ∀ content, files.write path content = .error fault)
      (system : fault.isSystemError = false) :
      Delivers files (some path) (.failure (.file path fault))

/-- Whether a file can be written does not depend on what is written. -/
theorem write_cases (files : FileSystem) (path : Path) :
    (∀ content, ∃ after, files.write path content = .ok after) ∨
      ∃ fault, ∀ content, files.write path content = .error fault := by
  unfold FileSystem.write
  cases located : files.locate path with
  | error fault => exact .inr ⟨fault, fun _ => rfl⟩
  | ok location =>
      simp only [bind, Except.bind]
      split
      · exact .inr ⟨.isDirectory, fun _ => rfl⟩
      · next refusal _ _ => exact .inr ⟨.refused refusal, fun _ => rfl⟩
      · exact .inl fun content => ⟨_, rfl⟩

theorem exists_delivers (files : FileSystem) (output : Option Path) :
    ∃ ending, Delivers files output ending := by
  cases output with
  | none => exact ⟨_, .printed⟩
  | some path =>
      rcases write_cases files path with writable | ⟨fault, unwritable⟩
      · exact ⟨_, .written writable⟩
      · cases system : fault.isSystemError with
        | true => exact ⟨_, .unwritable unwritable system⟩
        | false => exact ⟨_, .pathFailure unwritable system⟩

theorem ending_deliver {output : Option Path} {ending : Ending}
    (delivers : Delivers files output ending) (messages text : Text) :
    (deliver files output messages text).ending = ending := by
  unfold deliver
  cases delivers with
  | printed => rfl
  | written writable =>
      obtain ⟨after, done⟩ := writable (Utf8.encode text)
      simp only [done]
  | unwritable unwritable system => simp [unwritable, system]
  | pathFailure unwritable system => simp [unwritable, system]

/-- A run that leaves nothing behind but messages. -/
def Outcome.Quiet (files : FileSystem) (outcome : Outcome) : Prop :=
  outcome.output = [] ∧ outcome.files = files

theorem deliver_quiet (files : FileSystem) (output : Option Path) (messages text : Text) :
    (deliver files output messages text).ending = .code 0 ∨
      (deliver files output messages text).Quiet files := by
  unfold deliver
  split
  · exact .inl rfl
  · split
    · exact .inl rfl
    · right
      split <;> exact ⟨rfl, rfl⟩

/-- Nothing is written to a file or to standard output unless the code is zero. -/
theorem runWith_quiet (files : FileSystem) (asked : Arguments) :
    (runWith files asked).ending = .code 0 ∨ (runWith files asked).Quiet files := by
  unfold runWith
  split
  · exact .inr ⟨rfl, rfl⟩
  · exact .inr ⟨rfl, rfl⟩
  · unfold execute
    split
    · unfold process processWith
      split
      · exact .inr ⟨rfl, rfl⟩
      · dsimp only
        split
        · exact .inr ⟨rfl, rfl⟩
        · exact deliver_quiet ..
    · right
      split <;> exact ⟨rfl, rfl⟩

/-! ## The rendering -/

/-- Whatever is written about a source can be written in a complete theme. -/
theorem exists_written {settings : Settings} (complete : settings.theme.Complete)
    (language : Language) (tokens : List Token) :
    ∃ text, written settings language tokens = .ok text := by
  have block : ∃ block, Markup.renderBlock settings.theme (some language)
      settings.lineNumbers tokens = .ok block := by
    obtain ⟨code, rendered, _⟩ := Markup.exists_renderTokens_read complete
      fun token (_ : token ∈ tokens) => Markup.refers_codePoint? token.text
    exact ⟨_, by rw [Markup.renderBlock, rendered]; rfl⟩
  obtain ⟨block, rendered⟩ := block
  unfold written
  split
  · exact ⟨_, rfl⟩
  all_goals
    rw [rendered]
    exact ⟨_, rfl⟩

/-! ## The run -/

/-- How a run ends. -/
inductive Ends (files : FileSystem) (asked : Arguments) : Ending → Prop
  | misconfigured {found : Config.FaultIn} (problem : Misconfigured files asked (.fault found)) :
      Ends files asked (.code 2)
  | unreadable {fault : FileFault} (configured : Configured files asked)
      (unread : files.read (.ofText asked.input) = .error fault)
      (system : fault.isSystemError = true) : Ends files asked (.code 1)
  | undecodable {bytes : Utf8.Bytes} {fault : Utf8.Fault} (configured : Configured files asked)
      (held : files.read (.ofText asked.input) = .ok bytes)
      (undecoded : Utf8.decode bytes = .error fault) : Ends files asked (.code 1)
  | delivered {text : Text} {ending : Ending} (configured : Configured files asked)
      (held : TextAt files (.ofText asked.input) text)
      (hinted : asked.language ≠ some .nothing)
      (delivers : Delivers files (namedPath? asked.output) ending) : Ends files asked ending
  | configFailure {failure : Failure} (problem : Misconfigured files asked (.failure failure)) :
      Ends files asked (.failure failure)
  | inputFailure {fault : FileFault} (configured : Configured files asked)
      (unread : files.read (.ofText asked.input) = .error fault)
      (system : fault.isSystemError = false) :
      Ends files asked (.failure (.file (.ofText asked.input) fault))
  | hintFailure {text : Text} (configured : Configured files asked)
      (held : TextAt files (.ofText asked.input) text)
      (unhinted : asked.language = some .nothing) : Ends files asked (.failure .hintMissing)

/-- Every run ends in some way. -/
theorem exists_ends (files : FileSystem) (asked : Arguments) :
    ∃ ending, Ends files asked ending := by
  rcases configured_or_misconfigured files asked with configured | ⟨problem, misconfigured⟩
  · cases held : files.read (.ofText asked.input) with
    | error fault =>
        cases system : fault.isSystemError with
        | true => exact ⟨_, .unreadable configured held system⟩
        | false => exact ⟨_, .inputFailure configured held system⟩
    | ok bytes =>
        cases decoded : Utf8.decode bytes with
        | error fault => exact ⟨_, .undecodable configured held decoded⟩
        | ok text =>
            by_cases hinted : asked.language = some .nothing
            · exact ⟨_, .hintFailure configured ⟨bytes, held, decoded⟩ hinted⟩
            · obtain ⟨ending, delivers⟩ := exists_delivers files (namedPath? asked.output)
              exact ⟨ending, .delivered configured ⟨bytes, held, decoded⟩ hinted delivers⟩
  · cases problem with
    | fault found => exact ⟨_, .misconfigured misconfigured⟩
    | failure failure => exact ⟨_, .configFailure misconfigured⟩

theorem runWith_of_configured (configured : Configured files asked) :
    ∃ config settings, Settings.Merged asked config settings ∧
      runWith files asked = execute files settings := by
  obtain ⟨config, settings, merged, resolved⟩ := resolve_of_configured configured
  exact ⟨config, settings, merged, by simp only [runWith, resolved]⟩

theorem readSource_of_unread {path : Path} {fault : FileFault}
    (unread : files.read path = .error fault) :
    files.readSource path = .error (.file fault) := by
  unfold FileSystem.readSource
  rw [unread]
  rfl

theorem readSource_of_undecoded {path : Path} {bytes : Utf8.Bytes} {fault : Utf8.Fault}
    (held : files.read path = .ok bytes) (undecoded : Utf8.decode bytes = .error fault) :
    files.readSource path = .error (.encoding fault) := by
  simp only [FileSystem.readSource, held, undecoded, mapError_ok, mapError_error, bind, Except.bind]

theorem readSource_of_textAt {path : Path} {text : Text} (held : TextAt files path text) :
    files.readSource path = .ok text.lineEndsAsLineFeeds := by
  obtain ⟨bytes, read, decoded⟩ := held
  simp only [FileSystem.readSource, read, decoded, mapError_ok, bind, Except.bind]

theorem exists_hint {config : Table} {settings : Settings}
    (merged : Settings.Merged asked config settings) (hinted : asked.language ≠ some .nothing) :
    ∃ hint, settings.hint = .ok hint := by
  unfold Settings.hint
  rw [merged.language_eq]
  generalize asked.language = given at hinted
  cases given with
  | none =>
      cases (Settings.valueIn? config "highlight" "language").bind Settings.text? with
      | none => exact ⟨none, rfl⟩
      | some name => exact ⟨some name.toList, rfl⟩
  | some given =>
      cases given with
      | value name => exact ⟨some name.toList, rfl⟩
      | nothing => contradiction

/-- A run ends in the way that `Ends` tells. -/
theorem ending_runWith {ending : Ending} (ends : Ends files asked ending) :
    (runWith files asked).ending = ending := by
  cases ends with
  | misconfigured problem => simp only [runWith, resolve_of_misconfigured problem]
  | configFailure problem => simp only [runWith, resolve_of_misconfigured problem]
  | unreadable configured unread system =>
      obtain ⟨config, settings, merged, same⟩ := runWith_of_configured configured
      rw [← merged.input_eq] at unread
      rw [same]
      simp only [execute, readSource_of_unread unread, Unreadable.pathFault?, system, if_true]
  | undecodable configured held undecoded =>
      obtain ⟨config, settings, merged, same⟩ := runWith_of_configured configured
      rw [← merged.input_eq] at held
      rw [same]
      simp only [execute, readSource_of_undecoded held undecoded, Unreadable.pathFault?]
  | inputFailure configured unread system =>
      obtain ⟨config, settings, merged, same⟩ := runWith_of_configured configured
      rw [← merged.input_eq] at unread ⊢
      rw [same]
      simp [execute, readSource_of_unread unread, Unreadable.pathFault?, system]
  | hintFailure configured held unhinted =>
      obtain ⟨config, settings, merged, same⟩ := runWith_of_configured configured
      rw [← merged.input_eq] at held
      have hint : settings.hint = .error .hintMissing := by
        rw [Settings.hint, merged.language_eq, unhinted]
        rfl
      rw [same]
      simp only [execute, readSource_of_textAt held, process, hint]
  | delivered configured held hinted delivers =>
      obtain ⟨config, settings, merged, same⟩ := runWith_of_configured configured
      rw [← merged.input_eq] at held
      rw [← merged.output_eq] at delivers
      obtain ⟨hint, found⟩ := exists_hint merged hinted
      rw [same]
      simp only [execute, readSource_of_textAt held, process, found, processWith]
      obtain ⟨text, done⟩ := exists_written merged.complete
        (highlightBlock _ hint).1 (highlightBlock _ hint).2
      rw [done]
      exact ending_deliver delivers _ text

end

/-- A run that is asked for something ends in exactly one way, which the files and the
arguments decide: with the code two if the configuration is at fault, else with one if the
input cannot be read or the output cannot be written, else with zero; or without a code for
one of the reasons that are no faults. -/
theorem ending_run_iff (files : FileSystem) (arguments : List LooseText) (asked : Arguments)
    (accepted : read arguments = .ok (.run asked)) (ending : Ending) :
    (run files arguments).ending = ending ↔ Ends files asked ending := by
  have same : run files arguments = runWith files asked := by
    simp only [run, accepted]
  rw [same]
  constructor
  · rintro rfl
    obtain ⟨ending, ends⟩ := exists_ends files asked
    rwa [ending_runWith ends]
  · exact ending_runWith

/-- A configuration that turns line numbers off. -/
def unnumbered : Text :=
  "[highlight]\nline_numbers = false\n".toList

/-- A working directory with a configuration and a source. -/
def configuredSource : FileSystem :=
  ((FileSystem.empty ["work"]).install (.ofString "codelex.toml")
    (.file (Utf8.encode unnumbered))).install (.ofString "a.txt") (.file [0x78])

/-- The arguments of a page that is written to a file. -/
def pageTo (output : LooseText) : Arguments :=
  ⟨"a.txt", some (.value output), none, none, none, none, .value .page, false⟩

/-- A run reads its configuration and its input and writes its output.  Without permission to
write the output it ends with the code one.  Without permission to read the configuration it
breaks off, and so it does over a surrogate in the path of the output. -/
theorem ending_run_delivered :
    (run configuredSource ["a.txt", "-o", "b.html"]).ending = .code 0 ∧
      (run (configuredSource.bar ["work", "b.html"] .write .permissionDenied)
        ["a.txt", "-o", "b.html"]).ending = .code 1 ∧
      (run (configuredSource.bar ["work", "codelex.toml"] .read .permissionDenied)
        ["a.txt", "-o", "b.html"]).ending =
          .failure (.file (.ofString "codelex.toml") (.refused .permissionDenied)) ∧
      (run configuredSource ["a.txt", "-o", [.surrogate .least]]).ending =
        .failure (.file (.ofText [.surrogate .least]) (.unencodable ⟨"utf-8", .least, 0, 1⟩)) := by
  have source {files : FileSystem} (held : files.read (.ofText "a.txt") = .ok [0x78]) :
      TextAt files (.ofText "a.txt") "x".toList := ⟨_, held, by rfl⟩
  refine ⟨?_, ?_, ?_, ?_⟩
  · have configured : Configured configuredSource (pageTo "b.html") :=
      configured_iff_isOk_resolve.mpr (by decide +kernel)
    have writable (content : Utf8.Bytes) : ∃ after,
        configuredSource.write (.ofText "b.html") content = .ok after := ⟨_, by rfl⟩
    exact (ending_run_iff _ _ (pageTo "b.html") (by rfl) _).mpr
      (.delivered configured (source (by rfl)) nofun (.written writable))
  · have configured : Configured (configuredSource.bar ["work", "b.html"] .write .permissionDenied)
        (pageTo "b.html") := configured_iff_isOk_resolve.mpr (by decide +kernel)
    have unwritable (content : Utf8.Bytes) :
        (configuredSource.bar ["work", "b.html"] .write .permissionDenied).write
          (.ofText "b.html") content = .error (.refused .permissionDenied) := by rfl
    exact (ending_run_iff _ _ (pageTo "b.html") (by rfl) _).mpr
      (.delivered configured (source (by rfl)) nofun (.unwritable unwritable (by rfl)))
  · exact (ending_run_iff _ _ (pageTo "b.html") (by rfl) _).mpr
      (.configFailure (.file (.readFailure (by rfl) (by rfl))))
  · have configured : Configured configuredSource (pageTo [.surrogate .least]) :=
      configured_iff_isOk_resolve.mpr (by decide +kernel)
    have unwritable (content : Utf8.Bytes) :
        configuredSource.write (.ofText [.surrogate .least]) content =
          .error (.unencodable ⟨"utf-8", .least, 0, 1⟩) := by rfl
    exact (ending_run_iff _ _ (pageTo [.surrogate .least]) (by rfl) _).mpr
      (.delivered configured (source (by rfl)) nofun (.pathFailure unwritable (by rfl)))

/-- A working directory with a configuration file that is no text, and a source. -/
def undecodableConfiguration : FileSystem :=
  ((FileSystem.empty ["work"]).install (.ofString "codelex.toml") (.file [0xFF])).install
    (.ofString "a.txt") (.file [0x78])

/-- Over a configuration file that is no text a run breaks off without a code. -/
theorem undecodable_configuration_breaks_off :
    (run undecodableConfiguration ["a.txt"]).ending =
      .failure (.encoding ⟨0, 0xFF, 1, .startByte⟩) := by
  have held : undecodableConfiguration.read
      (Arguments.configPath ⟨"a.txt", none, none, none, none, none, .value .page, false⟩) =
        .ok [0xFF] := rfl
  exact ending_runWith (.configFailure (.file (.bytesFailure held rfl)))

end Highlighter.CommandLine
