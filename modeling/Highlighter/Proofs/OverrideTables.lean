import Highlighter.Proofs.Overrides
import Mathlib.Data.List.Forall2

/-!
# Tables of colours, one after the other

A table of overrides is made as a whole or not at all, so a theme goes through tables one by one
and stays as it is at those that are refused.  On the way only foregrounds change: the last table
that is made and names a class gives its foreground, and nothing else of the theme is different.

So all themes that can be reached from the built-in ones have a colour for every class.
-/

namespace Highlighter

open Config (Value Table)

namespace Theme

/-! ## What a table gives -/

/-- A table of overrides of which each can be made. -/
def Acceptable (colours : Table) : Prop :=
  ∀ entry ∈ colours, Overridable entry

/-- A table has an entry with the name of a class. -/
def Names (colours : Table) (cls : TokenClass) : Prop :=
  cls.name ∈ colours.map Prod.fst

/-- The last entry of a table with the name of a class has a colour. -/
def Gives (colours : Table) (cls : TokenClass) (colour : String) : Prop :=
  ∃ before after, colours = before ++ (cls.name, .text colour) :: after ∧ ¬Names after cls

/-- In a table with distinct names the entry of a class is the last one. -/
theorem gives_iff_mem {colours : Table} (distinct : (colours.map Prod.fst).Nodup)
    {cls : TokenClass} {colour : String} :
    Gives colours cls colour ↔ (cls.name, .text colour) ∈ colours := by
  constructor
  · rintro ⟨before, after, rfl, _⟩
    simp
  · intro member
    obtain ⟨before, after, rfl⟩ := List.append_of_mem member
    refine ⟨before, after, rfl, fun named => ?_⟩
    rw [List.map_append, List.nodup_append, List.map_cons, List.nodup_cons] at distinct
    exact distinct.2.1.1 named

/-- The colour that a table of overrides has for a class is the one of the last entry. -/
theorem lastColour?_eq_some_iff {colours : Table} (acceptable : Acceptable colours)
    {cls : TokenClass} {colour : String} :
    lastColour? colours cls = some colour ↔ Gives colours cls colour := by
  rw [lastColour?, Option.bind_eq_some_iff]
  constructor
  · rintro ⟨value, found, written⟩
    obtain ⟨after, before, split, other⟩ := List.lookup_eq_some_iff.mp found
    refine ⟨before.reverse, after.reverse, ?_, ?_⟩
    · rw [← (colourOf?_eq_some_iff.mp written).1, ← List.reverse_reverse colours, split]
      simp
    · intro named
      obtain ⟨entry, member, same⟩ := List.mem_map.mp named
      have differs := other entry (List.mem_reverse.mp member)
      simp [same] at differs
  · rintro ⟨before, after, rfl, unnamed⟩
    have made := (acceptable (cls.name, .text colour) (by simp)).2
    refine ⟨.text colour, ?_, colourOf?_eq_some_iff.mpr ⟨rfl, made⟩⟩
    rw [List.lookup_eq_some_iff]
    refine ⟨after.reverse, before.reverse, by simp, fun entry member => ?_⟩
    rw [bne_iff_ne]
    intro same
    exact unnamed (List.mem_map.mpr ⟨entry, List.mem_reverse.mp member, same.symm⟩)

/-- A table of overrides without a colour for a class does not name the class. -/
theorem not_names_of_lastColour?_eq_none {colours : Table} (acceptable : Acceptable colours)
    {cls : TokenClass} (absent : lastColour? colours cls = none) : ¬Names colours cls := by
  intro named
  obtain ⟨entry, member, same⟩ := List.mem_map.mp named
  rw [lastColour?, Option.bind_eq_none_iff] at absent
  cases found : colours.reverse.lookup cls.name with
  | none =>
      have differs := List.lookup_eq_none_iff.mp found entry (List.mem_reverse.mpr member)
      simp [same] at differs
  | some value =>
      obtain ⟨front, back, split, _⟩ := List.lookup_eq_some_iff.mp found
      have held : (cls.name, value) ∈ colours := by
        rw [← List.mem_reverse, split]
        simp
      exact colourOf?_eq_none_iff.mp (absent value found) (acceptable _ held).2

/-- The order of entries with distinct names has no part in the colours. -/
theorem lastColour?_eq_of_perm {colours others : Table} (acceptable : Acceptable colours)
    (distinct : (colours.map Prod.fst).Nodup) (reordered : colours.Perm others)
    (cls : TokenClass) : lastColour? others cls = lastColour? colours cls := by
  have acceptableOthers : Acceptable others := fun entry member =>
    acceptable entry (reordered.mem_iff.mpr member)
  have distinctOthers := (reordered.map Prod.fst).nodup_iff.mp distinct
  ext colour
  rw [lastColour?_eq_some_iff acceptable, lastColour?_eq_some_iff acceptableOthers,
    gives_iff_mem distinct, gives_iff_mem distinctOthers, reordered.mem_iff]

/-! ## One table -/

/-- The theme after a table of overrides.  A table that is refused leaves the theme as it was. -/
def attempt (theme : Theme) (colours : Table) : Theme :=
  match theme.withOverrides colours with
  | .ok coloured => coloured
  | .error _ => theme

/-- A table is accepted exactly if all of its overrides can be made. -/
theorem withOverrides_isOk_iff {theme : Theme} (complete : theme.Complete) (colours : Table) :
    (∃ coloured, theme.withOverrides colours = .ok coloured) ↔ Acceptable colours := by
  rcases withOverrides_cases complete colours with
    ⟨coloured, done, made, _⟩ | ⟨before, entry, after, found, rfl, _, refused, stopped⟩
  · exact iff_of_true ⟨coloured, done⟩ made
  · rw [stopped]
    refine iff_of_false nofun fun acceptable => ?_
    exact refused.not_overridable (acceptable entry (by simp))

/-- A table is refused for the first entry that cannot be made. -/
theorem withOverrides_eq_error_iff {theme : Theme} (complete : theme.Complete) {colours : Table}
    {fault : OverrideFault} :
    theme.withOverrides colours = .error fault ↔
      ∃ before entry after, colours = before ++ entry :: after ∧ Acceptable before ∧
        Refused entry fault := by
  rcases withOverrides_cases complete colours with
    ⟨coloured, done, made, _⟩ | ⟨before, entry, after, found, rfl, hold, refused, stopped⟩
  · rw [done]
    refine iff_of_false nofun ?_
    rintro ⟨before, entry, after, rfl, _, refused⟩
    exact refused.not_overridable (made entry (by simp))
  · rw [stopped]
    constructor
    · rintro ⟨⟩
      exact ⟨before, entry, after, rfl, hold, refused⟩
    · rintro ⟨others, other, rest, split, othersHold, otherRefused⟩
      have same : entry = other :=
        first_without_unique split hold refused.not_overridable othersHold
          otherRefused.not_overridable
      subst same
      rw [refused.unique otherRefused]

/-- A table is made with all of its colours, or it leaves the theme as it was. -/
theorem attempt_cases {theme : Theme} (complete : theme.Complete) (colours : Table) :
    (Acceptable colours ∧ theme.Recoloured colours (theme.attempt colours)) ∨
      (¬Acceptable colours ∧ theme.attempt colours = theme) := by
  unfold attempt
  cases outcome : theme.withOverrides colours with
  | ok coloured =>
      have acceptable := (withOverrides_isOk_iff complete colours).mp ⟨coloured, outcome⟩
      exact .inl ⟨acceptable, recoloured_of_withOverrides complete outcome⟩
  | error fault =>
      refine .inr ⟨fun acceptable => ?_, rfl⟩
      obtain ⟨coloured, done⟩ := (withOverrides_isOk_iff complete colours).mpr acceptable
      rw [outcome] at done
      contradiction

theorem Complete.attempt {theme : Theme} (complete : theme.Complete) (colours : Table) :
    (theme.attempt colours).Complete := by
  rcases attempt_cases complete colours with ⟨_, recoloured⟩ | ⟨_, same⟩
  · exact recoloured.complete complete
  · rwa [same]

/-- Two themes differ in foregrounds of classes at most: they style the same classes, with the
same backgrounds. -/
structure SameFrame (base theme : Theme) : Prop where
  name_eq : theme.name = base.name
  background_eq : theme.background = base.background
  foreground_eq : theme.foreground = base.foreground
  gutter_eq : theme.gutter = base.gutter
  backgrounds_eq : ∀ cls,
    (theme.styles cls).map (·.background) = (base.styles cls).map (·.background)

theorem SameFrame.refl (theme : Theme) : theme.SameFrame theme :=
  ⟨rfl, rfl, rfl, rfl, fun _ => rfl⟩

theorem SameFrame.trans {base middle theme : Theme} (first : base.SameFrame middle)
    (second : middle.SameFrame theme) : base.SameFrame theme where
  name_eq := second.name_eq.trans first.name_eq
  background_eq := second.background_eq.trans first.background_eq
  foreground_eq := second.foreground_eq.trans first.foreground_eq
  gutter_eq := second.gutter_eq.trans first.gutter_eq
  backgrounds_eq cls := (second.backgrounds_eq cls).trans (first.backgrounds_eq cls)

theorem Recoloured.sameFrame {base theme : Theme} {colours : Table}
    (recoloured : base.Recoloured colours theme) : base.SameFrame theme where
  name_eq := recoloured.name_eq
  background_eq := recoloured.background_eq
  foreground_eq := recoloured.foreground_eq
  gutter_eq := recoloured.gutter_eq
  backgrounds_eq cls := by
    rw [recoloured.styles_eq, Option.map_map]
    rfl

theorem sameFrame_attempt {theme : Theme} (complete : theme.Complete) (colours : Table) :
    theme.SameFrame (theme.attempt colours) := by
  rcases attempt_cases complete colours with ⟨_, recoloured⟩ | ⟨_, same⟩
  · exact recoloured.sameFrame
  · rw [same]
    exact .refl theme

/-- A theme with the colours of a table is the one with the same colours in another order. -/
theorem Recoloured.unique {base theme other : Theme} {colours others : Table}
    (recoloured : base.Recoloured colours theme) (again : base.Recoloured others other)
    (same : ∀ cls, lastColour? others cls = lastColour? colours cls) : other = theme := by
  have styles : other.styles = theme.styles := by
    funext cls
    rw [again.styles_eq, recoloured.styles_eq, same]
  cases theme
  cases other
  simp only [mk.injEq]
  exact ⟨again.name_eq.trans recoloured.name_eq.symm, styles,
    again.background_eq.trans recoloured.background_eq.symm,
    again.foreground_eq.trans recoloured.foreground_eq.symm,
    again.gutter_eq.trans recoloured.gutter_eq.symm⟩

/-- The order of the entries of a table has no part in the theme after it. -/
theorem attempt_eq_of_perm {theme : Theme} (complete : theme.Complete) {colours others : Table}
    (distinct : (colours.map Prod.fst).Nodup) (reordered : colours.Perm others) :
    theme.attempt others = theme.attempt colours := by
  have alike : Acceptable others ↔ Acceptable colours :=
    forall_congr' fun entry => by rw [reordered.mem_iff]
  rcases attempt_cases complete colours with ⟨acceptable, recoloured⟩ | ⟨refused, same⟩ <;>
    rcases attempt_cases complete others with ⟨othersAcceptable, again⟩ | ⟨othersRefused, still⟩
  · exact recoloured.unique again (lastColour?_eq_of_perm acceptable distinct reordered)
  · exact absurd (alike.mpr acceptable) othersRefused
  · exact absurd (alike.mp othersAcceptable) refused
  · rw [same, still]

/-! ## Tables one after the other -/

/-- The theme after tables of overrides, one after the other. -/
def attemptAll (theme : Theme) (tables : List Table) : Theme :=
  tables.foldl attempt theme

@[simp]
theorem attemptAll_nil (theme : Theme) : theme.attemptAll [] = theme :=
  rfl

@[simp]
theorem attemptAll_cons (theme : Theme) (colours : Table) (later : List Table) :
    theme.attemptAll (colours :: later) = (theme.attempt colours).attemptAll later :=
  rfl

theorem Complete.attemptAll {theme : Theme} (complete : theme.Complete) (tables : List Table) :
    (theme.attemptAll tables).Complete := by
  induction tables generalizing theme with
  | nil => exact complete
  | cons colours later inductionHypothesis => exact inductionHypothesis (complete.attempt colours)

theorem sameFrame_attemptAll {theme : Theme} (complete : theme.Complete) (tables : List Table) :
    theme.SameFrame (theme.attemptAll tables) := by
  induction tables generalizing theme with
  | nil => exact .refl theme
  | cons colours later inductionHypothesis =>
      exact (sameFrame_attempt complete colours).trans
        (inductionHypothesis (complete.attempt colours))

/-- No table that can be made names a class. -/
def Unnamed (cls : TokenClass) (tables : List Table) : Prop :=
  ∀ colours ∈ tables, Acceptable colours → ¬Names colours cls

/-- The last table that can be made and names a class gives it a colour. -/
def LastGives (tables : List Table) (cls : TokenClass) (colour : String) : Prop :=
  ∃ earlier colours later, tables = earlier ++ colours :: later ∧ Acceptable colours ∧
    Gives colours cls colour ∧ Unnamed cls later

/-- Tables settle the foreground of a class: it is the colour of the last table that can be made
and names the class, or the original one. -/
def Settles (tables : List Table) (cls : TokenClass) (original foreground : String) : Prop :=
  LastGives tables cls foreground ∨ (Unnamed cls tables ∧ foreground = original)

/-- What one table settles. -/
theorem settles_attempt {theme : Theme} (complete : theme.Complete) (colours : Table)
    {cls : TokenClass} {style : Style} (held : theme.styles cls = some style) :
    ∃ foreground, (theme.attempt colours).styles cls = some { style with foreground } ∧
      Settles [colours] cls style.foreground foreground := by
  rcases attempt_cases complete colours with ⟨acceptable, recoloured⟩ | ⟨refused, same⟩
  · refine ⟨(lastColour? colours cls).getD style.foreground, ?_, ?_⟩
    · rw [recoloured.styles_eq, held]
      rfl
    · cases given : lastColour? colours cls with
      | some colour =>
          have gives := (lastColour?_eq_some_iff acceptable).mp given
          exact .inl ⟨[], colours, [], rfl, acceptable, gives, by simp [Unnamed]⟩
      | none =>
          have unnamed := not_names_of_lastColour?_eq_none acceptable given
          exact .inr ⟨by simpa [Unnamed] using fun _ => unnamed, rfl⟩
  · refine ⟨style.foreground, by rw [same, held], .inr ⟨?_, rfl⟩⟩
    simpa [Unnamed] using fun acceptable => absurd acceptable refused

/-- Tables after each other settle what the last of them settles that names the class. -/
theorem Settles.trans {earlier later : List Table} {cls : TokenClass}
    {original middle foreground : String} (first : Settles earlier cls original middle)
    (second : Settles later cls middle foreground) :
    Settles (earlier ++ later) cls original foreground := by
  rcases second with ⟨before, colours, after, rfl, acceptable, gives, unnamed⟩ | ⟨unnamed, rfl⟩
  · exact .inl ⟨earlier ++ before, colours, after, by simp, acceptable, gives, unnamed⟩
  · rcases first with ⟨before, colours, after, rfl, acceptable, gives, behind⟩ | ⟨behind, rfl⟩
    · refine .inl ⟨before, colours, after ++ later, by simp, acceptable, gives, ?_⟩
      exact List.forall_mem_append.mpr ⟨behind, unnamed⟩
    · exact .inr ⟨List.forall_mem_append.mpr ⟨behind, unnamed⟩, rfl⟩

/-- What tables settle, one after the other. -/
theorem settles_attemptAll {theme : Theme} (complete : theme.Complete) (tables : List Table)
    {cls : TokenClass} {style : Style} (held : theme.styles cls = some style) :
    ∃ foreground, (theme.attemptAll tables).styles cls = some { style with foreground } ∧
      Settles tables cls style.foreground foreground := by
  induction tables generalizing theme style with
  | nil => exact ⟨style.foreground, held, .inr ⟨by simp [Unnamed], rfl⟩⟩
  | cons colours later inductionHypothesis =>
      obtain ⟨middle, next, first⟩ := settles_attempt complete colours held
      obtain ⟨foreground, last, second⟩ := inductionHypothesis (complete.attempt colours) next
      exact ⟨foreground, last, first.trans second⟩

/-- A settled foreground is a colour, if the original one is. -/
theorem Settles.isColour {tables : List Table} {cls : TokenClass} {original foreground : String}
    (settles : Settles tables cls original foreground) (coloured : (Value.text original).IsColour) :
    (Value.text foreground).IsColour := by
  rcases settles with ⟨_, colours, _, _, acceptable, ⟨before, after, rfl, _⟩, _⟩ | ⟨_, rfl⟩
  · exact (acceptable (cls.name, .text foreground) (by simp)).2
  · exact coloured

/-- Every class of a built-in theme has a colour. -/
theorem isColour_of_mem_builtIn {theme : Theme} (member : theme ∈ builtIn) {cls : TokenClass}
    {style : Style} (held : theme.styles cls = some style) :
    (Value.text style.foreground).IsColour := by
  have each : ∀ theme ∈ builtIn, ∀ cls ∈ TokenClass.all,
      ((theme.styles cls).all fun style => isColour style.foreground) = true := by decide +kernel
  have colour := each theme member cls cls.mem_all
  rw [held] at colour
  exact isColour_iff.mp colour

/-- The order of the entries in tables with distinct names has no part in the theme after them. -/
theorem attemptAll_eq_of_perm {theme : Theme} (complete : theme.Complete)
    {tables others : List Table}
    (reordered : List.Forall₂ (fun colours other : Table =>
      (colours.map Prod.fst).Nodup ∧ colours.Perm other) tables others) :
    theme.attemptAll others = theme.attemptAll tables := by
  induction reordered generalizing theme with
  | nil => rfl
  | cons first _ inductionHypothesis =>
      rw [attemptAll_cons, attemptAll_cons, attempt_eq_of_perm complete first.1 first.2]
      exact inductionHypothesis (complete.attempt _)

/-- Tables of overrides compose on a theme with a style for every class.  Whatever tables came
before, a table is accepted exactly if all of its overrides can be made, and is refused for the
first one that cannot.  The foreground of a class is the one of the last accepted table that names
it, or the original one; nothing else of the theme changes, and the order of entries with distinct
names has no part in it.  From a built-in theme, every class then has a style whose foreground is
a colour. -/
theorem overrides_compose {theme : Theme} (complete : theme.Complete) (tables : List Table) :
    (∀ colours : Table,
      ((∃ coloured, (theme.attemptAll tables).withOverrides colours = .ok coloured) ↔
          Acceptable colours) ∧
        ∀ fault, (theme.attemptAll tables).withOverrides colours = .error fault ↔
          ∃ before entry after, colours = before ++ entry :: after ∧ Acceptable before ∧
            Refused entry fault) ∧
    theme.SameFrame (theme.attemptAll tables) ∧
    (∀ cls, ∃ style foreground, theme.styles cls = some style ∧
      (theme.attemptAll tables).style cls = .ok { style with foreground } ∧
        Settles tables cls style.foreground foreground ∧
          (theme ∈ builtIn → (Value.text foreground).IsColour)) ∧
    ∀ others : List Table,
      List.Forall₂ (fun colours other : Table =>
          (colours.map Prod.fst).Nodup ∧ colours.Perm other) tables others →
        theme.attemptAll others = theme.attemptAll tables := by
  have reached := complete.attemptAll tables
  refine ⟨fun colours => ⟨withOverrides_isOk_iff reached colours, fun _ =>
    withOverrides_eq_error_iff reached⟩, sameFrame_attemptAll complete tables, fun cls => ?_,
    fun others => attemptAll_eq_of_perm complete⟩
  obtain ⟨style, held⟩ := Option.isSome_iff_exists.mp (complete cls)
  obtain ⟨foreground, found, settles⟩ := settles_attemptAll complete tables held
  refine ⟨style, foreground, held, by rw [Theme.style, found], settles, fun member => ?_⟩
  exact settles.isColour (isColour_of_mem_builtIn member held)

/-- A table that is refused at its second entry leaves the colour of its first one as the table
before gave it. -/
theorem overrides_compose_refused :
    let accepted : Table := [("string", .text "#00ff00"), ("keyword", .text "#112233")]
    let refused : Table := [("string", .text "#ABCDEF"), ("name", .text "red")]
    darkPlus.Complete ∧
      (darkPlus.attemptAll [accepted]).withOverrides refused =
        .error (.theme (.unknownClass "name")) ∧
      (darkPlus.attemptAll [accepted, refused]).style .string = .ok ⟨"#00ff00", none⟩ ∧
      Settles [accepted, refused] .string "#CE9178" "#00ff00" ∧
      darkPlus.attemptAll [accepted.reverse, refused] =
        darkPlus.attemptAll [accepted, refused] := by
  intro accepted refused
  have complete : darkPlus.Complete := complete_of_mem_builtIn List.mem_cons_self
  have done : (darkPlus.attemptAll [accepted, refused]).style .string =
      .ok ⟨"#00ff00", none⟩ := rfl
  obtain ⟨decided, _⟩ := overrides_compose complete [accepted]
  obtain ⟨_, _, settled, unordered⟩ := overrides_compose complete [accepted, refused]
  refine ⟨complete, ?_, done, ?_, ?_⟩
  · rw [(decided refused).2]
    refine ⟨[("string", .text "#ABCDEF")], ("name", .text "red"), [], rfl, ?_, ?_⟩
    · intro entry member
      rw [List.mem_singleton.mp member]
      exact ⟨⟨.string, rfl⟩, isColour_iff.mp (by decide)⟩
    · exact .unknownClass fun cls => by cases cls <;> decide
  · obtain ⟨style, foreground, held, found, settles, _⟩ := settled .string
    cases held
    cases found.symm.trans done
    exact settles
  · have reversed := (List.reverse_perm accepted).symm
    exact unordered _ (.cons ⟨by decide, reversed⟩ (.cons ⟨by decide, .refl _⟩ .nil))

/-- A value that is an integer with too many digits is refused without a word about the entry:
the message would show the value. -/
theorem long_integer_refused_unnamed :
    ¬Acceptable [("keyword", .integer (.ofNat (.pow 16 4000)))] ∧
      ∀ fault : ThemeFault,
        monokai.withOverrides [("keyword", .integer (.ofNat (.pow 16 4000)))] ≠
          .error (.theme fault) := by
  have long : Nat.pow 10 Config.digitLimit ≤ (Int.ofNat (.pow 16 4000)).natAbs := by
    decide +kernel
  generalize Int.ofNat (.pow 16 4000) = value at long
  have hidden : (Value.integer value).obstacle? Config.shownDepth = some .longInteger := by
    rw [Config.shownDepth, Value.obstacle?, if_pos long]
  have bad : ¬(Value.integer value).IsColour := by
    rintro ⟨_, written, _⟩
    cases written
  have refused : Refused ("keyword", .integer value) (.unshown .longInteger) :=
    .unshown ⟨.keyword, rfl⟩ bad hidden
  have complete : monokai.Complete := complete_of_mem_builtIn (by simp [builtIn])
  have stopped : monokai.withOverrides [("keyword", .integer value)] =
      .error (.unshown .longInteger) :=
    (withOverrides_eq_error_iff complete).mpr ⟨[], _, [], rfl, by simp [Acceptable], refused⟩
  refine ⟨fun acceptable => refused.not_overridable (acceptable _ List.mem_cons_self), ?_⟩
  intro fault same
  cases stopped.symm.trans same

end Theme

end Highlighter
