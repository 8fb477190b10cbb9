import Highlighter.CommandLine.Settings
import Highlighter.Proofs.Overrides

/-!
# The checks of the settings

The settings of a run are found by seven checks, made one after the other.  `Check.Holds`
says what each of them asks of the command line and of the configuration, without a word
about how it is made; `Check.Reports` says what is reported when it does not hold.

Every step of the search for settings is `Checked`: either the checks that it makes hold and
its result is as it should be, or the first of them that does not hold is reported.  Steps
after each other are checked if each is, so the whole search is.
-/

namespace Highlighter.CommandLine

open Config (Value Table Problem)

namespace Settings

/-! ## What is checked -/

/-- The value of a setting: an entry of a table that is an entry of the configuration. -/
def valueIn? (config : Table) (tableName name : String) : Option Value :=
  ((config.get? tableName).bind table?).bind (·.get? name)

/-- The checks of the settings. -/
inductive Check where
  | highlightTable
  | language
  | theme
  | themeOption
  | themeTable
  | colours
  | lineNumbers
  deriving DecidableEq, Repr

namespace Check

/-- The checks in the order in which they are made. -/
def order : List Check :=
  [highlightTable, language, theme, themeOption, themeTable, colours, lineNumbers]

/-- What a check asks of a command line and a configuration. -/
def Holds (arguments : Arguments) (config : Table) : Check → Prop
  | highlightTable => ∀ value ∈ config.get? "highlight", ∃ entries, value = .table entries
  | language => ∀ value ∈ valueIn? config "highlight" "language", ∃ name, value = .text name
  | theme =>
      ∀ value ∈ valueIn? config "highlight" "theme",
        ∃ base ∈ Theme.builtIn, value = .text base.name
  | themeOption => ∀ given ∈ arguments.theme, ∃ base ∈ Theme.builtIn, given = .value base.name
  | themeTable => ∀ value ∈ config.get? "theme", ∃ entries, value = .table entries
  | colours =>
      ∀ value ∈ valueIn? config "theme" "colors",
        ∃ entries, value = .table entries ∧ ∀ entry ∈ entries, Theme.Overridable entry
  | lineNumbers =>
      ∀ value ∈ valueIn? config "highlight" "line_numbers", ∃ chosen, value = .flag chosen

/-- What is reported about a check that does not hold.  All faults are faults of the
configuration file but the one of an option.  The theme of an option that has no value and
a colour that cannot be shown are no faults; they break the search off. -/
inductive Reports (arguments : Arguments) (path : Path) (config : Table) :
    Check → Problem → Prop
  | highlightTable :
      Reports arguments path config highlightTable
        (fault path (.wrongKind "[highlight]" "a table"))
  | language :
      Reports arguments path config language
        (fault path (.wrongKind "highlight.language" "a string"))
  | themeKind {value : Value} (given : valueIn? config "highlight" "theme" = some value)
      (other : ∀ name, value ≠ .text name) :
      Reports arguments path config theme (fault path (.wrongKind "highlight.theme" "a string"))
  | themeName {name : String} (given : valueIn? config "highlight" "theme" = some (.text name)) :
      Reports arguments path config theme (fault path (.theme (.unknownTheme name)))
  | themeOption {name : String} (given : arguments.theme = some (.value name)) :
      Reports arguments path config themeOption (.fault ⟨.theme (.unknownTheme name), none⟩)
  | themeMissing (given : arguments.theme = some .nothing) :
      Reports arguments path config themeOption (.failure .themeMissing)
  | themeTable :
      Reports arguments path config themeTable (fault path (.wrongKind "[theme]" "a table"))
  | coloursKind {value : Value} (given : valueIn? config "theme" "colors" = some value)
      (other : ∀ entries, value ≠ .table entries) :
      Reports arguments path config colours
        (fault path (.wrongKind "[theme.colors]" "a table"))
  | colour {before after : Table} {entry : String × Value} {found : ThemeFault}
      (given : valueIn? config "theme" "colors" = some (.table (before ++ entry :: after)))
      (made : ∀ earlier ∈ before, Theme.Overridable earlier)
      (refused : Theme.Refused entry (.theme found)) :
      Reports arguments path config colours (fault path (.theme found))
  | unshown {before after : Table} {entry : String × Value} {obstacle : Config.Obstacle}
      (given : valueIn? config "theme" "colors" = some (.table (before ++ entry :: after)))
      (made : ∀ earlier ∈ before, Theme.Overridable earlier)
      (refused : Theme.Refused entry (.unshown obstacle)) :
      Reports arguments path config colours (.failure (.unshown obstacle))
  | lineNumbers :
      Reports arguments path config lineNumbers
        (fault path (.wrongKind "highlight.line_numbers" "true or false"))

/-- A check that does not hold while all checks before it do. -/
def FirstViolated (arguments : Arguments) (config : Table) (check : Check) : Prop :=
  ∃ before after, order = before ++ check :: after ∧
    (∀ earlier ∈ before, earlier.Holds arguments config) ∧ ¬check.Holds arguments config

end Check

/-! ## What the settings are -/

/-- The theme of the configuration, else the standard one. -/
def IsConfigured (config : Table) (theme : Theme) : Prop :=
  match valueIn? config "highlight" "theme" with
  | some value => theme ∈ Theme.builtIn ∧ value = .text theme.name
  | none => theme = Theme.standard

/-- The theme that the colours are put on: the one of the option, else the one of the
configuration, else the standard one. -/
def IsBase (arguments : Arguments) (config : Table) (base : Theme) : Prop :=
  match arguments.theme with
  | some given => base ∈ Theme.builtIn ∧ given = .value base.name
  | none => IsConfigured config base

/-- Settings are those of the command line, else those of the configuration, else the
defaults, and the theme has the colours of the configuration. -/
structure Merged (arguments : Arguments) (config : Table) (settings : Settings) : Prop where
  input_eq : settings.input = .ofText arguments.input
  output_eq : settings.output = namedPath? arguments.output
  language_eq : settings.language =
    arguments.language.or (((valueIn? config "highlight" "language").bind text?).map .value)
  theme_eq : ∃ base, IsBase arguments config base ∧
    base.Recoloured (((valueIn? config "theme" "colors").bind table?).getD []) settings.theme
  lineNumbers_eq : settings.lineNumbers =
    (arguments.lineNumbers.or
      ((valueIn? config "highlight" "line_numbers").bind flag?)).getD true
  format_eq : settings.format = arguments.format
  debug_eq : settings.debug = arguments.debug

/-! ## Steps of the search -/

section

variable {arguments : Arguments} {path : Path} {config : Table}

/-- What a step comes to that makes some checks: all hold and the result is right, or the
first that does not hold is reported. -/
inductive Checked (arguments : Arguments) (path : Path) (config : Table) {α : Type}
    (checks : List Check) (right : α → Prop) : Except Problem α → Prop
  | ok {found : α} (hold : ∀ check ∈ checks, check.Holds arguments config)
      (proper : right found) : Checked arguments path config checks right (.ok found)
  | error {before after : List Check} {check : Check} {problem : Problem}
      (split : checks = before ++ check :: after)
      (hold : ∀ earlier ∈ before, earlier.Holds arguments config)
      (violated : ¬check.Holds arguments config)
      (reported : check.Reports arguments path config problem) :
      Checked arguments path config checks right (.error problem)

namespace Checked

variable {α β : Type} {right : α → Prop} {check : Check}

/-- A step that makes one check and finds the check violated. -/
theorem violation {problem : Problem} (violated : ¬check.Holds arguments config)
    (reported : check.Reports arguments path config problem) :
    Checked arguments path config [check] right (.error problem) :=
  .error (show [check] = [] ++ check :: [] from rfl) (by simp) violated reported

/-- A step that makes one check and finds that it holds. -/
theorem success {found : α} (holds : check.Holds arguments config) (proper : right found) :
    Checked arguments path config [check] right (.ok found) :=
  .ok (by simpa using holds) proper

/-- A step that makes one check with steps that make the others. -/
theorem bind {later : List Check} {wanted : β → Prop} {step : Except Problem α}
    {rest : α → Except Problem β} (made : Checked arguments path config [check] right step)
    (continued : ∀ found, right found →
      Checked arguments path config later wanted (rest found)) :
    Checked arguments path config (check :: later) wanted (step >>= rest) := by
  cases made with
  | @ok found hold proper =>
      have holds : check.Holds arguments config := hold check (by simp)
      have continuedFrom := continued found proper
      change Checked arguments path config (check :: later) wanted (rest found)
      generalize rest found = outcome at continuedFrom
      cases continuedFrom with
      | ok hold proper => exact .ok (List.forall_mem_cons.mpr ⟨holds, hold⟩) proper
      | @error before after other problem split hold violated reported =>
          subst split
          have split : check :: (before ++ other :: after) = (check :: before) ++ other :: after :=
            rfl
          exact .error split (List.forall_mem_cons.mpr ⟨holds, hold⟩) violated reported
  | @error before after other problem split hold violated reported =>
      obtain ⟨rfl, rfl, rfl⟩ : before = [] ∧ other = check ∧ after = [] := by
        cases before <;> simp_all
      exact .error (show other :: later = [] ++ other :: later from rfl) (by simp) violated
        reported

end Checked

/-! ## The steps one by one -/

theorem isSome_table?_iff {value : Value} :
    (table? value).isSome ↔ ∃ entries, value = .table entries := by
  cases value <;> simp [table?]

theorem isSome_text?_iff {value : Value} : (text? value).isSome ↔ ∃ name, value = .text name := by
  cases value <;> simp [text?]

theorem isSome_flag?_iff {value : Value} :
    (flag? value).isSome ↔ ∃ chosen, value = .flag chosen := by
  cases value <;> simp [flag?]

theorem get?_getD_eq (config : Table) (tableName name : String) :
    Table.get? (((config.get? tableName).bind table?).getD []) name =
      valueIn? config tableName name := by
  unfold valueIn?
  cases (config.get? tableName).bind table? <;> rfl

/-- What a setting of a kind comes to. -/
theorem setting_cases {α : Type} (path : Path) (name kind : String)
    (ofKind? : Value → Option α) (given : Option Value) :
    ((∀ value ∈ given, (ofKind? value).isSome) ∧
        setting path name kind ofKind? given = .ok (given.bind ofKind?)) ∨
      ∃ value, given = some value ∧ ofKind? value = none ∧
        setting path name kind ofKind? given = .error (fault path (.wrongKind name kind)) := by
  unfold setting
  cases given with
  | none => exact .inl ⟨by simp, rfl⟩
  | some value =>
      cases found : ofKind? value with
      | none => exact .inr ⟨value, rfl, found, by simp [found]⟩
      | some held => exact .inl ⟨by simp [found], by simp [found]⟩

/-- A setting of a kind makes the check whether it is of that kind. -/
theorem checked_setting {α : Type} {check : Check} {name kind : String}
    {ofKind? : Value → Option α} {given : Option Value}
    (holds : check.Holds arguments config ↔ ∀ value ∈ given, (ofKind? value).isSome)
    (reported : check.Reports arguments path config (fault path (.wrongKind name kind))) :
    Checked arguments path config [check] (· = given.bind ofKind?)
      (setting path name kind ofKind? given) := by
  rcases setting_cases path name kind ofKind? given with
    ⟨fits, done⟩ | ⟨value, same, other, stopped⟩
  · rw [done]
    exact .success (holds.mpr fits) rfl
  · rw [stopped]
    refine .violation (fun h => ?_) reported
    have fits := holds.mp h value same
    rw [other] at fits
    contradiction

/-- A theme is found exactly by the name of a built-in one. -/
theorem ofName_cases (name : String) :
    (∃ theme ∈ Theme.builtIn, theme.name = name ∧ Theme.ofName name = .ok theme) ∨
      ((∀ theme ∈ Theme.builtIn, theme.name ≠ name) ∧
        Theme.ofName name = .error (.unknownTheme name)) := by
  unfold Theme.ofName
  cases found : Theme.builtIn.find? (·.name == name) with
  | none => exact .inr ⟨by simpa using found, rfl⟩
  | some theme =>
      have named : theme.name = name := by simpa using List.find?_some found
      exact .inl ⟨theme, List.mem_of_find?_eq_some found, named, rfl⟩

/-- The theme that the configuration names. -/
def configuredTheme (path : Path) (given : Option Value) : Except Problem Theme := do
  match ← setting path "highlight.theme" "a string" text? given with
  | none => .ok Theme.standard
  | some name => themeOf path name

theorem checked_configuredTheme :
    Checked arguments path config [.theme] (IsConfigured config)
      (configuredTheme path (valueIn? config "highlight" "theme")) := by
  unfold configuredTheme
  rcases setting_cases path "highlight.theme" "a string" text?
      (valueIn? config "highlight" "theme") with
    ⟨fits, done⟩ | ⟨value, same, other, stopped⟩
  · rw [done]
    cases given : valueIn? config "highlight" "theme" with
    | none => exact .success (by simp [Check.Holds, given]) (by simp [IsConfigured, given])
    | some value =>
        obtain ⟨name, rfl⟩ := isSome_text?_iff.mp (fits value given)
        change Checked arguments path config [.theme] _ (themeOf path name)
        unfold themeOf
        rcases ofName_cases name with ⟨theme, member, rfl, found⟩ | ⟨unknown, found⟩
        · rw [found]
          refine .success ?_ ?_
          · simpa [Check.Holds, given] using ⟨theme, member, rfl⟩
          · simpa [IsConfigured, given] using member
        · rw [found]
          refine .violation (fun h => ?_) (.themeName given)
          obtain ⟨theme, member, same⟩ := h _ given
          cases same
          exact unknown theme member rfl
  · rw [stopped]
    refine .violation (fun h => ?_) (.themeKind same ?_)
    · obtain ⟨theme, _, rfl⟩ := h value same
      simp [text?] at other
    · rintro name rfl
      simp [text?] at other

/-- The theme that colours are put on, when the configuration names one or none. -/
def chosenTheme (arguments : Arguments) (configured : Theme) : Except Problem Theme :=
  match arguments.theme with
  | none => .ok configured
  | some given => themeOfOption given

theorem checked_chosenTheme {configured : Theme} (named : IsConfigured config configured) :
    Checked arguments path config [.themeOption] (IsBase arguments config)
      (chosenTheme arguments configured) := by
  unfold chosenTheme
  cases given : arguments.theme with
  | none =>
      refine .success (by simp [Check.Holds, given]) ?_
      simpa [IsBase, given] using named
  | some option =>
      cases option with
      | nothing =>
          refine .violation (fun h => ?_) (.themeMissing given)
          obtain ⟨theme, _, same⟩ := h _ given
          contradiction
      | value name =>
          change Checked arguments path config [.themeOption] _
            ((Theme.ofName name).mapError fun found => .fault ⟨.theme found, none⟩)
          rcases ofName_cases name with ⟨theme, member, rfl, found⟩ | ⟨unknown, found⟩
          · rw [found]
            refine .success ?_ ?_
            · simpa [Check.Holds, given] using ⟨theme, member, rfl⟩
            · simpa [IsBase, given] using member
          · rw [found]
            refine .violation (fun h => ?_) (.themeOption given)
            obtain ⟨theme, member, same⟩ := h _ given
            cases same
            exact unknown theme member rfl

/-- Every base is complete. -/
theorem IsBase.complete {base : Theme} (isBase : IsBase arguments config base) :
    base.Complete := by
  refine Theme.complete_of_mem_builtIn ?_
  unfold IsBase IsConfigured at isBase
  split at isBase
  · exact isBase.1
  · split at isBase
    · exact isBase.1
    · rw [isBase]
      exact List.mem_cons_of_mem _ (List.mem_cons_self ..)

/-- The theme of a run is complete. -/
theorem Merged.complete {settings : Settings} (merged : Merged arguments config settings) :
    settings.theme.Complete := by
  obtain ⟨base, isBase, recoloured⟩ := merged.theme_eq
  exact recoloured.complete isBase.complete

/-- A theme with the colours that the configuration gives. -/
def colouredTheme (path : Path) (base : Theme) (given : Option Value) :
    Except Problem Theme := do
  let colours ← setting path "[theme.colors]" "a table" table? given
  colour path base (colours.getD [])

theorem checked_colouredTheme {base : Theme} (isBase : IsBase arguments config base) :
    Checked arguments path config [.colours]
      (base.Recoloured (((valueIn? config "theme" "colors").bind table?).getD []))
      (colouredTheme path base (valueIn? config "theme" "colors")) := by
  unfold colouredTheme
  rcases setting_cases path "[theme.colors]" "a table" table?
      (valueIn? config "theme" "colors") with
    ⟨fits, done⟩ | ⟨value, same, other, stopped⟩
  · rw [done]
    cases given : valueIn? config "theme" "colors" with
    | none => exact .success (by simp [Check.Holds, given]) (.nil base)
    | some value =>
        obtain ⟨entries, rfl⟩ := isSome_table?_iff.mp (fits value given)
        change Checked arguments path config [.colours] (base.Recoloured entries)
          (colour path base entries)
        unfold colour
        rcases Theme.withOverrides_cases isBase.complete entries with
          ⟨theme, finished, made, recoloured⟩ |
            ⟨before, entry, after, found, rfl, made, refused, stopped⟩
        · rw [finished]
          refine .success ?_ recoloured
          simpa [Check.Holds, given] using made
        · rw [stopped]
          have violated : ¬Check.Holds arguments config .colours := by
            intro h
            obtain ⟨_, same, all⟩ := h _ given
            cases same
            exact refused.not_overridable (all entry (by simp))
          cases found with
          | theme found => exact .violation violated (.colour given made refused)
          | unshown obstacle => exact .violation violated (.unshown given made refused)
          | unstyled missing => cases refused
  · rw [stopped]
    refine .violation (fun h => ?_) (.coloursKind same ?_)
    · obtain ⟨entries, rfl, _⟩ := h value same
      simp [table?] at other
    · rintro entries rfl
      simp [table?] at other

/-! ## The whole search -/

/-- The search as the steps above. -/
theorem ofConfig_eq (arguments : Arguments) (path : Path) (config : Table) :
    ofConfig arguments path config = (do
      let highlighting ←
        setting path "[highlight]" "a table" table? (config.get? "highlight")
      let chosen := highlighting.getD []
      let language ←
        setting path "highlight.language" "a string" text? (chosen.get? "language")
      let configured ← configuredTheme path (chosen.get? "theme")
      let base ← chosenTheme arguments configured
      let looks ← setting path "[theme]" "a table" table? (config.get? "theme")
      let theme ← colouredTheme path base ((looks.getD []).get? "colors")
      let numbered ←
        setting path "highlight.line_numbers" "true or false" flag?
          (chosen.get? "line_numbers")
      .ok {
        input := .ofText arguments.input
        output := namedPath? arguments.output
        language := arguments.language.or (language.map .value)
        theme := theme
        lineNumbers := (arguments.lineNumbers.or numbered).getD true
        format := arguments.format
        debug := arguments.debug }) := by
  unfold ofConfig configuredTheme chosenTheme colouredTheme
  simp only [bind_assoc]
  refine bind_congr fun highlighting => bind_congr fun language => bind_congr fun named => ?_
  cases named with
  | none => cases arguments.theme <;> rfl
  | some name =>
      refine bind_congr fun configured => ?_
      cases arguments.theme <;> rfl

/-- The search for settings makes all checks in their order. -/
theorem checked_ofConfig (arguments : Arguments) (path : Path) (config : Table) :
    Checked arguments path config Check.order (Merged arguments config)
      (ofConfig arguments path config) := by
  rw [ofConfig_eq]
  refine .bind (checked_setting (by simp [Check.Holds, isSome_table?_iff]) .highlightTable) ?_
  rintro _ rfl
  simp only [get?_getD_eq]
  refine .bind (checked_setting (by simp [Check.Holds, isSome_text?_iff]) .language) ?_
  rintro _ rfl
  refine .bind checked_configuredTheme fun configured named => ?_
  refine .bind (checked_chosenTheme named) fun base isBase => ?_
  refine .bind (checked_setting (by simp [Check.Holds, isSome_table?_iff]) .themeTable) ?_
  rintro _ rfl
  rw [get?_getD_eq]
  refine .bind (checked_colouredTheme isBase) fun theme recoloured => ?_
  refine .bind (checked_setting (by simp [Check.Holds, isSome_flag?_iff]) .lineNumbers) ?_
  rintro _ rfl
  exact .ok (by simp) ⟨rfl, rfl, rfl, ⟨base, isBase, recoloured⟩, rfl, rfl, rfl⟩

/-! ## What the checks decide -/

theorem Check.mem_order (check : Check) : check ∈ Check.order := by
  cases check <;> decide

/-- A fault names the configuration file, if it is not the fault of an option. -/
theorem Check.Reports.path_eq {check : Check} {found : Config.FaultIn}
    (reported : check.Reports arguments path config (.fault found)) :
    found.path = if check = .themeOption then none else some path := by
  cases reported <;> rfl

/-- Only one check is the first that does not hold. -/
theorem Check.FirstViolated.unique {check other : Check}
    (first : check.FirstViolated arguments config)
    (again : other.FirstViolated arguments config) : check = other := by
  obtain ⟨before, after, split, hold, violated⟩ := first
  obtain ⟨others, rest, otherSplit, othersHold, otherViolated⟩ := again
  exact first_without_unique (split.symm.trans otherSplit) hold violated othersHold otherViolated

/-- The first refused colour of a configuration is refused for one reason. -/
theorem first_refused_unique {before after others rest : Table} {entry other : String × Value}
    {found otherFound : OverrideFault}
    (given : valueIn? config "theme" "colors" = some (.table (before ++ entry :: after)))
    (made : ∀ earlier ∈ before, Theme.Overridable earlier)
    (refused : Theme.Refused entry found)
    (again : valueIn? config "theme" "colors" = some (.table (others ++ other :: rest)))
    (othersMade : ∀ earlier ∈ others, Theme.Overridable earlier)
    (otherRefused : Theme.Refused other otherFound) : found = otherFound := by
  have split : before ++ entry :: after = others ++ other :: rest := by
    simpa using given.symm.trans again
  have same : entry = other :=
    first_without_unique split made refused.not_overridable othersMade
      otherRefused.not_overridable
  subst same
  exact refused.unique otherRefused

/-- Only one thing is reported about a check. -/
theorem Check.Reports.unique {check : Check} {problem other : Problem}
    (reported : check.Reports arguments path config problem)
    (again : check.Reports arguments path config other) : problem = other := by
  cases check with
  | highlightTable | language | themeTable | lineNumbers => cases reported; cases again; rfl
  | theme =>
      cases reported with
      | themeKind given other =>
          cases again with
          | themeKind _ _ => rfl
          | themeName named => exact absurd (Option.some.inj (given.symm.trans named)) (other _)
      | themeName named =>
          cases again with
          | themeKind given other =>
              exact absurd (Option.some.inj (given.symm.trans named)) (other _)
          | themeName again =>
              cases named.symm.trans again
              rfl
  | themeOption =>
      cases reported <;> cases again <;> simp_all
  | colours =>
      cases reported with
      | coloursKind given other =>
          cases again with
          | coloursKind _ _ => rfl
          | colour table _ _ | unshown table _ _ =>
              exact absurd (Option.some.inj (given.symm.trans table)) (other _)
      | colour table made refused =>
          cases again with
          | coloursKind given other =>
              exact absurd (Option.some.inj (given.symm.trans table)) (other _)
          | colour again othersMade otherRefused =>
              cases first_refused_unique table made refused again othersMade otherRefused
              rfl
          | unshown again othersMade otherRefused =>
              cases first_refused_unique table made refused again othersMade otherRefused
      | unshown table made refused =>
          cases again with
          | coloursKind given other =>
              exact absurd (Option.some.inj (given.symm.trans table)) (other _)
          | colour again othersMade otherRefused =>
              cases first_refused_unique table made refused again othersMade otherRefused
          | unshown again othersMade otherRefused =>
              cases first_refused_unique table made refused again othersMade otherRefused
              rfl

/-- There are settings exactly when all checks hold. -/
theorem ofConfig_isOk_iff :
    (∃ settings, ofConfig arguments path config = .ok settings) ↔
      ∀ check : Check, check.Holds arguments config := by
  have checked := checked_ofConfig arguments path config
  constructor
  · rintro ⟨settings, same⟩ check
    rw [same] at checked
    cases checked with
    | ok hold _ => exact hold check check.mem_order
  · intro all
    generalize ofConfig arguments path config = outcome at checked
    cases checked with
    | @ok settings _ _ => exact ⟨settings, rfl⟩
    | error _ _ violated _ => exact absurd (all _) violated

theorem merged_of_ofConfig_eq_ok {settings : Settings}
    (same : ofConfig arguments path config = .ok settings) :
    Merged arguments config settings := by
  have checked := checked_ofConfig arguments path config
  rw [same] at checked
  cases checked with
  | ok _ merged => exact merged

/-- The search for settings comes to a problem exactly if it is reported about the first
check that does not hold. -/
theorem ofConfig_eq_error_iff {problem : Problem} :
    ofConfig arguments path config = .error problem ↔
      ∃ check : Check, check.FirstViolated arguments config ∧
        check.Reports arguments path config problem := by
  have checked := checked_ofConfig arguments path config
  constructor
  · intro same
    rw [same] at checked
    cases checked with
    | @error before after check _ split hold violated reported =>
        exact ⟨check, ⟨before, after, split, hold, violated⟩, reported⟩
  · rintro ⟨check, first, reported⟩
    generalize ofConfig arguments path config = outcome at checked
    cases checked with
    | ok hold _ =>
        obtain ⟨_, _, _, _, violated⟩ := first
        exact absurd (hold check check.mem_order) violated
    | @error before after other _ split hold violated otherReported =>
        have same : check = other := first.unique ⟨before, after, split, hold, violated⟩
        subst same
        rw [otherReported.unique reported]

/-- Two values are the same, or they are tables with the same entries of some names. -/
inductive AgreeIn (names : List String) : Option Value → Option Value → Prop
  | same (value : Option Value) : AgreeIn names value value
  | tables {entries others : Table}
      (agree : ∀ name ∈ names, Table.get? entries name = Table.get? others name) :
      AgreeIn names (some (.table entries)) (some (.table others))

/-- A step that reads only some names of a table comes to the same for values that agree
in them. -/
theorem AgreeIn.setting_bind {α : Type} {names : List String} {value other : Option Value}
    (agree : AgreeIn names value other) {name kind : String}
    {rest : Option Table → Except Problem α}
    (reads : ∀ entries others : Table,
      (∀ name ∈ names, entries.get? name = others.get? name) →
        rest (some entries) = rest (some others)) :
    setting path name kind table? value >>= rest =
      setting path name kind table? other >>= rest := by
  cases agree with
  | same => rfl
  | tables agree => exact reads _ _ agree

/-- The entries that no setting names have no part in the settings. -/
theorem ofConfig_congr {other : Table}
    (highlighting : AgreeIn ["language", "theme", "line_numbers"] (config.get? "highlight")
      (other.get? "highlight"))
    (looks : AgreeIn ["colors"] (config.get? "theme") (other.get? "theme")) :
    ofConfig arguments path config = ofConfig arguments path other := by
  rw [ofConfig_eq, ofConfig_eq]
  refine Eq.trans (highlighting.setting_bind fun entries others agree => ?_) ?_
  · dsimp only [Option.getD_some]
    rw [agree "language" (by simp), agree "theme" (by simp), agree "line_numbers" (by simp)]
  · refine bind_congr fun _ => bind_congr fun _ => bind_congr fun _ => bind_congr fun _ => ?_
    refine looks.setting_bind fun entries others agree => ?_
    dsimp only [Option.getD_some]
    rw [agree "colors" (by simp)]

/-- The checks decide about the settings of a command line and a configuration.  There are
settings exactly when all checks hold, and these are merged.  Otherwise the first check that
does not hold is reported, with the path of the configuration unless it is about an option.
Entries of the configuration that no setting names have no part in it. -/
theorem checks_decide_settings (arguments : Arguments) (path : Path) (config : Table) :
    ((∃ settings, ofConfig arguments path config = .ok settings) ↔
        ∀ check : Check, check.Holds arguments config) ∧
      (∀ settings, ofConfig arguments path config = .ok settings →
        Merged arguments config settings) ∧
      (∀ problem, ofConfig arguments path config = .error problem ↔
        ∃ check : Check, check.FirstViolated arguments config ∧
          check.Reports arguments path config problem) ∧
      (∀ (check : Check) (found : Config.FaultIn),
        check.Reports arguments path config (.fault found) →
          found.path = if check = .themeOption then none else some path) ∧
      ∀ other : Table,
        AgreeIn ["language", "theme", "line_numbers"] (config.get? "highlight")
            (other.get? "highlight") →
          AgreeIn ["colors"] (config.get? "theme") (other.get? "theme") →
            ofConfig arguments path config = ofConfig arguments path other :=
  ⟨ofConfig_isOk_iff, fun _ => merged_of_ofConfig_eq_ok, fun _ => ofConfig_eq_error_iff,
    fun _ _ reported => reported.path_eq, fun _ => ofConfig_congr⟩

/-- Colours that cannot be shown break the search off. -/
theorem ofConfig_unshown {colours : Table} {obstacle : Config.Obstacle}
    (unchosen : arguments.theme = none)
    (stopped : Theme.standard.withOverrides colours = .error (.unshown obstacle)) :
    ofConfig arguments path [("theme", .table [("colors", .table colours)])] =
      .error (.failure (.unshown obstacle)) := by
  have chosen : chosenTheme arguments Theme.standard = .ok Theme.standard := by
    rw [chosenTheme, unchosen]
  rw [ofConfig_eq]
  change (chosenTheme arguments Theme.standard >>= _) = _
  rw [chosen]
  change (colour path Theme.standard colours >>= _) = _
  rw [colour, stopped]
  rfl

end

/-- A configuration of one colour, which is an integer with too many digits. -/
def longIntegerColour : Table :=
  [("theme", .table [("colors", .table [("keyword", .integer (.ofNat (.pow 16 4000)))])])]

/-- A colour that is an integer with too many digits is not reported: the check of the
colours does not hold, and the search breaks off without a fault. -/
theorem long_integer_colour_unreported :
    ¬Check.Holds ⟨"a.txt", none, none, none, none, none, .value .page, false⟩
        longIntegerColour .colours ∧
      ofConfig ⟨"a.txt", none, none, none, none, none, .value .page, false⟩
          (.ofString "codelex.toml") longIntegerColour =
        .error (.failure (.unshown .longInteger)) := by
  have long : Nat.pow 10 Config.digitLimit ≤ (Int.ofNat (.pow 16 4000)).natAbs := by
    decide +kernel
  unfold longIntegerColour
  generalize Int.ofNat (.pow 16 4000) = value at long
  refine ⟨fun h => ?_, ofConfig_unshown rfl ?_⟩
  · obtain ⟨entries, same, made⟩ := h _ rfl
    cases same
    obtain ⟨_, digits, written, _⟩ := made _ (List.mem_cons_self ..)
    cases written
  · have hidden : (Value.integer value).obstacle? Config.shownDepth = some .longInteger := by
      rw [Config.shownDepth, Value.obstacle?, if_pos long]
    rw [Theme.withOverrides_cons]
    simp only [Theme.override, Theme.colourOf?, hidden]
    rfl

end Settings

end Highlighter.CommandLine
