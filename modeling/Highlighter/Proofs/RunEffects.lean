import Highlighter.Proofs.ExitCodes
import Highlighter.Proofs.StoredText

/-!
# What runs leave behind

A run reads everything it needs before it delivers its text, and the delivery is the last thing
it does.  So a run without success leaves the files as they were and prints nothing, and a
successful one does no more than to put its text in one place: at the output path, whatever
was there before, or on standard output.  The text is the one of the files as they were, also
where the output is the input or the configuration file.
-/

namespace Highlighter.CommandLine

/-- What a run formats and what messages it gives on the way, from the files and the arguments. -/
def Formats (files : FileSystem) (asked : Arguments) (text messages : Text) : Prop :=
  ∃ settings source hint,
    Settings.resolve files asked = .ok settings ∧
      files.readSource (.ofText asked.input) = .ok source ∧
      settings.hint = .ok hint ∧
      written settings (highlightBlock source hint).1 (highlightBlock source hint).2 = .ok text ∧
      messages = hintWarning hint ++
        if settings.debug then
          Listing.report (some (highlightBlock source hint).1) (highlightBlock source hint).2
        else []

/-- A file holds a text, whether it may be read or not. -/
def Stores (files : FileSystem) (path : Path) (text : Text) : Prop :=
  ∃ bytes, files.contentOf path = .ok bytes ∧ Utf8.decode bytes = .ok text

/-- Where a text is after its delivery: on standard output, with no file changed, or in the
file of a path, with nothing printed and no other file changed. -/
inductive Delivered (files : FileSystem) (text : Text) :
    Option Path → Text → FileSystem → Prop
  | printed : Delivered files text none text files
  | stored {path : Path} {after : FileSystem}
      (replaced : files.Replaced path (Utf8.encode text) after)
      (held : Stores after path text) : Delivered files text (some path) [] after

theorem delivered_of_deliver {files : FileSystem} {output : Option Path} {messages text : Text}
    (done : (deliver files output messages text).ending = .code 0) :
    Delivered files text output (deliver files output messages text).output
        (deliver files output messages text).files ∧
      (deliver files output messages text).messages = messages := by
  cases output with
  | none => exact ⟨.printed, rfl⟩
  | some path =>
      cases wrote : files.write path (Utf8.encode text) with
      | ok after =>
          have replaced := FileSystem.replaced_of_write wrote
          simp only [deliver, wrote]
          exact ⟨.stored replaced ⟨_, replaced.contentOf_eq, Utf8.decode_encode text⟩, trivial⟩
      | error fault =>
          simp only [deliver, wrote] at done
          split at done <;> simp at done

/-- A successful run has read its source and has a hint, and ends with the delivery. -/
theorem delivers_of_execute {files : FileSystem} {settings : Settings}
    (done : (execute files settings).ending = .code 0) :
    ∃ source hint text messages,
      files.readSource settings.input = .ok source ∧ settings.hint = .ok hint ∧
        written settings (highlightBlock source hint).1 (highlightBlock source hint).2 =
          .ok text ∧
        messages = hintWarning hint ++
          (if settings.debug then
            Listing.report (some (highlightBlock source hint).1) (highlightBlock source hint).2
          else []) ∧
        execute files settings = deliver files settings.output messages text := by
  unfold execute at done ⊢
  cases held : files.readSource settings.input with
  | error unreadable =>
      rw [held] at done
      dsimp only at done
      split at done <;> simp at done
  | ok source =>
      rw [held] at done
      cases hinted : settings.hint with
      | error failure => simp [process, hinted] at done
      | ok hint =>
          cases formatted : written settings (highlightBlock source hint).1
              (highlightBlock source hint).2 with
          | error failure => simp [process, hinted, processWith, formatted] at done
          | ok text =>
              refine ⟨source, hint, text, _, rfl, rfl, formatted, rfl, ?_⟩
              simp only [process, hinted, processWith, formatted]

/-- A successful run delivers what it formats. -/
theorem delivered_of_runWith {files : FileSystem} {asked : Arguments}
    (done : (runWith files asked).ending = .code 0) :
    ∃ text, Formats files asked text (runWith files asked).messages ∧
      Delivered files text (namedPath? asked.output) (runWith files asked).output
        (runWith files asked).files := by
  rcases configured_or_misconfigured files asked with configured | ⟨problem, misconfigured⟩
  · obtain ⟨config, settings, merged, resolved⟩ := resolve_of_configured configured
    have same : runWith files asked = execute files settings := by
      simp only [runWith, resolved]
    rw [same] at done ⊢
    obtain ⟨source, hint, text, messages, held, hinted, formatted, rfl, delivery⟩ :=
      delivers_of_execute done
    rw [delivery] at done ⊢
    obtain ⟨delivered, given⟩ := delivered_of_deliver done
    rw [merged.input_eq] at held
    rw [← merged.output_eq]
    exact ⟨text, ⟨settings, source, hint, resolved, held, hinted, formatted, given⟩, delivered⟩
  · cases problem <;> simp [runWith, resolve_of_misconfigured misconfigured] at done

/-- A run that is asked for something touches nothing but its output, and only on success.
With any other ending no file is different and nothing is printed; with the code zero the
formatted text is in the file of the output path or on standard output, and nowhere else. -/
theorem run_effects (files : FileSystem) (arguments : List LooseText) (asked : Arguments)
    (accepted : read arguments = .ok (.run asked)) :
    ((run files arguments).ending ≠ .code 0 →
      (run files arguments).files = files ∧ (run files arguments).output = []) ∧
    ((run files arguments).ending = .code 0 →
      ∃ text, Formats files asked text (run files arguments).messages ∧
        Delivered files text (namedPath? asked.output) (run files arguments).output
          (run files arguments).files) := by
  have same : run files arguments = runWith files asked := by
    simp only [run, accepted]
  rw [same]
  refine ⟨fun failed => ?_, delivered_of_runWith⟩
  rcases runWith_quiet files asked with done | ⟨printed, unchanged⟩
  · contradiction
  · exact ⟨unchanged, printed⟩

/-- A working directory with one source. -/
def oneSource : FileSystem :=
  (FileSystem.empty ["work"]).install (.ofString "a.txt") (.file [0x78])

/-- A run whose output is its input replaces the input by what is formatted of it, and prints
nothing, not even with messages.  A run whose output has no directory leaves everything. -/
theorem run_effects_own_input :
    (∃ text,
      Formats oneSource
          ⟨"a.txt", some (.value "a.txt"), some (.value "none"), none, none, none,
            .value .tokens, true⟩ text
          (run oneSource ["a.txt", "-o", "a.txt", "--lang", "none", "--format", "tokens",
            "--debug"]).messages ∧
        Delivered oneSource text (some (.ofString "a.txt"))
          (run oneSource ["a.txt", "-o", "a.txt", "--lang", "none", "--format", "tokens",
            "--debug"]).output
          (run oneSource ["a.txt", "-o", "a.txt", "--lang", "none", "--format", "tokens",
            "--debug"]).files) ∧
      (run oneSource ["a.txt", "-o", "b/a.html"]).files = oneSource ∧
      (run oneSource ["a.txt", "-o", "b/a.html"]).output = [] := by
  have failed : (run oneSource ["a.txt", "-o", "b/a.html"]).ending = .code 1 := by
    rfl
  have asked := (run_effects oneSource ["a.txt", "-o", "b/a.html"]
    ⟨"a.txt", some (.value "b/a.html"), none, none, none, none, .value .page, false⟩ rfl).1
  refine ⟨(run_effects _ _ _ rfl).2 ?_, asked (by simp [failed])⟩
  rfl

end Highlighter.CommandLine
