import Highlighter.Theme

/-!
# Colours on top of a theme

Overrides are made one after the other.  One override replaces the foreground of one class
or is refused; on a theme that has a style for every class nothing else can happen, and the
theme after it has one for every class again.  So a table of overrides is accepted exactly
when each of its entries can be, the last entry with the name of a class gives this class
its foreground, and the first entry that cannot be made tells why the table is refused.
-/

namespace Highlighter

open Config (Value Table)

/-- A value that writes a colour: a number sign and six digits of base sixteen, in either
case. -/
def Config.Value.IsColour (value : Value) : Prop :=
  ∃ digits : Text, value = .text (String.ofList ('#' :: digits)) ∧ digits.length = 6 ∧
    ∀ c ∈ digits, c.isDigit ∨ ('a' ≤ c ∧ c ≤ 'f') ∨ ('A' ≤ c ∧ c ≤ 'F')

/-- The first item of a list without a property is at one place. -/
theorem first_without_unique {α : Type} {property : α → Prop} {before others after rest : List α}
    {item other : α} (split : before ++ item :: after = others ++ other :: rest)
    (hold : ∀ earlier ∈ before, property earlier) (fails : ¬property item)
    (othersHold : ∀ earlier ∈ others, property earlier) (otherFails : ¬property other) :
    item = other := by
  induction before generalizing others with
  | nil =>
      cases others with
      | nil => exact (List.cons.inj split).1
      | cons first later =>
          have same : item = first := (List.cons.inj split).1
          exact absurd (same ▸ othersHold first (by simp)) fails
  | cons first later inductionHypothesis =>
      cases others with
      | nil =>
          have same : first = other := (List.cons.inj split).1
          exact absurd (same ▸ hold first (by simp)) otherFails
      | cons head tail =>
          exact inductionHypothesis (List.cons.inj split).2
            (fun earlier member => hold earlier (List.mem_cons_of_mem _ member))
            fun earlier member => othersHold earlier (List.mem_cons_of_mem _ member)

namespace Theme

/-! ## What one override needs -/

theorem isHexDigit_iff {c : Char} :
    isHexDigit c ↔ c.isDigit ∨ ('a' ≤ c ∧ c ≤ 'f') ∨ ('A' ≤ c ∧ c ≤ 'F') := by
  unfold isHexDigit hexValue?
  split
  · simp_all
  · split
    · simp_all
    · split <;> simp_all

theorem isColour_iff {text : String} :
    isColour text ↔ (Value.text text).IsColour := by
  constructor
  · intro accepted
    unfold isColour at accepted
    cases written : text.toList with
    | nil => simp [written] at accepted
    | cons c digits =>
        simp only [written, Bool.and_eq_true, beq_iff_eq, List.all_eq_true] at accepted
        obtain ⟨⟨rfl, six⟩, hexadecimal⟩ := accepted
        refine ⟨digits, ?_, six, fun d member => isHexDigit_iff.mp (hexadecimal d member)⟩
        rw [← written, String.ofList_toList]
  · rintro ⟨digits, same, six, hexadecimal⟩
    cases same
    simpa [isColour, six] using fun d member => isHexDigit_iff.mpr (hexadecimal d member)

/-- The colour that a value is is the text of the value. -/
theorem colourOf?_eq_some_iff {value : Value} {colour : String} :
    colourOf? value = some colour ↔ value = .text colour ∧ value.IsColour := by
  cases value with
  | text held =>
      by_cases accepted : isColour held
      · have written := isColour_iff.mp accepted
        simp [colourOf?, accepted, written]
      · have unwritten : ¬(Value.text held).IsColour := fun h => accepted (isColour_iff.mpr h)
        simp [colourOf?, accepted, unwritten]
  | _ => simp [colourOf?]

theorem colourOf?_eq_none_iff {value : Value} : colourOf? value = none ↔ ¬value.IsColour := by
  constructor
  · rintro absent ⟨digits, same, six, hexadecimal⟩
    have found := colourOf?_eq_some_iff.mpr ⟨same, digits, same, six, hexadecimal⟩
    rw [absent] at found
    contradiction
  · intro unwritten
    cases found : colourOf? value with
    | none => rfl
    | some colour => exact absurd (colourOf?_eq_some_iff.mp found).2 unwritten

/-- An override that can be made: the name of a class with a colour. -/
def Overridable (entry : String × Value) : Prop :=
  (∃ cls : TokenClass, cls.name = entry.1) ∧ entry.2.IsColour

/-- Why an override is refused.  The name comes first, and the message about a bad value
needs a value that can be shown. -/
inductive Refused : String × Value → OverrideFault → Prop
  | unknownClass {name : String} {value : Value} (unknown : ∀ cls : TokenClass, cls.name ≠ name) :
      Refused (name, value) (.theme (.unknownClass name))
  | invalidColour {name : String} {value : Value} (known : ∃ cls : TokenClass, cls.name = name)
      (bad : ¬value.IsColour) (shown : value.obstacle? Config.shownDepth = none) :
      Refused (name, value) (.theme (.invalidColour name value))
  | unshown {name : String} {value : Value} {obstacle : Config.Obstacle}
      (known : ∃ cls : TokenClass, cls.name = name) (bad : ¬value.IsColour)
      (hidden : value.obstacle? Config.shownDepth = some obstacle) :
      Refused (name, value) (.unshown obstacle)

/-- A refused override cannot be made. -/
theorem Refused.not_overridable {entry : String × Value} {found : OverrideFault}
    (refused : Refused entry found) : ¬Overridable entry := by
  rintro ⟨⟨cls, named⟩, colour⟩
  cases refused with
  | unknownClass unknown => exact unknown cls named
  | invalidColour _ bad _ => exact bad colour
  | unshown _ bad _ => exact bad colour

/-- Two reasons to refuse an override are one. -/
theorem Refused.unique {entry : String × Value} {found other : OverrideFault}
    (refused : Refused entry found) (again : Refused entry other) : found = other := by
  cases refused with
  | unknownClass unknown =>
      cases again with
      | unknownClass _ => rfl
      | invalidColour known _ _ | unshown known _ _ =>
          obtain ⟨cls, named⟩ := known
          exact absurd named (unknown cls)
  | invalidColour known bad shown =>
      obtain ⟨cls, named⟩ := known
      cases again with
      | unknownClass unknown => exact absurd named (unknown cls)
      | invalidColour _ _ _ => rfl
      | unshown _ _ hidden => simp [shown] at hidden
  | unshown known bad hidden =>
      obtain ⟨cls, named⟩ := known
      cases again with
      | unknownClass unknown => exact absurd named (unknown cls)
      | invalidColour _ _ shown => simp [shown] at hidden
      | unshown _ _ again => simpa [hidden] using again

/-- A theme with a style for every class. -/
def Complete (theme : Theme) : Prop :=
  ∀ cls, (theme.styles cls).isSome

theorem complete_of_mem_builtIn {theme : Theme} (member : theme ∈ builtIn) :
    theme.Complete := by
  simp only [builtIn, List.mem_cons, List.not_mem_nil, or_false] at member
  rcases member with rfl | rfl <;> exact fun _ => rfl

theorem Complete.recolour {theme : Theme} (complete : theme.Complete) (cls : TokenClass)
    (style : Style) (colour : String) : (theme.recolour cls style colour).Complete := by
  intro asked
  rw [styles_recolour]
  split
  · rfl
  · exact complete asked

/-- What one override of a complete theme comes to. -/
theorem override_cases {theme : Theme} (complete : theme.Complete) (name : String)
    (value : Value) :
    (∃ cls style colour, cls.name = name ∧ colourOf? value = some colour ∧
        theme.styles cls = some style ∧
        theme.override name value = .ok (theme.recolour cls style colour)) ∨
      ∃ found, Refused (name, value) found ∧ theme.override name value = .error found := by
  unfold override
  cases named : TokenClass.ofName? name with
  | none =>
      refine .inr ⟨_, .unknownClass fun cls same => ?_, rfl⟩
      rw [TokenClass.ofName?_eq_some_iff.mpr same] at named
      contradiction
  | some cls =>
      have known := TokenClass.ofName?_eq_some_iff.mp named
      cases written : colourOf? value with
      | none =>
          have bad := colourOf?_eq_none_iff.mp written
          cases hidden : value.obstacle? Config.shownDepth with
          | none => exact .inr ⟨_, .invalidColour ⟨cls, known⟩ bad hidden, rfl⟩
          | some obstacle => exact .inr ⟨_, .unshown ⟨cls, known⟩ bad hidden, rfl⟩
      | some colour =>
          obtain ⟨style, found⟩ := Option.isSome_iff_exists.mp (complete cls)
          exact .inl ⟨cls, style, colour, known, rfl, found, by simp [found]⟩

/-! ## What a table of overrides comes to -/

/-- The foreground that a table gives a class: its last entry with the name of the class
counts. -/
def lastColour? (colours : Table) (cls : TokenClass) : Option String :=
  (colours.reverse.lookup cls.name).bind colourOf?

/-- A theme is another one with the foregrounds that a table gives. -/
structure Recoloured (base : Theme) (colours : Table) (theme : Theme) : Prop where
  name_eq : theme.name = base.name
  background_eq : theme.background = base.background
  foreground_eq : theme.foreground = base.foreground
  gutter_eq : theme.gutter = base.gutter
  styles_eq : ∀ cls, theme.styles cls = (base.styles cls).map fun style =>
    { style with foreground := (lastColour? colours cls).getD style.foreground }

theorem Recoloured.nil (theme : Theme) : theme.Recoloured [] theme :=
  ⟨rfl, rfl, rfl, rfl, fun cls => by cases theme.styles cls <;> rfl⟩

theorem Recoloured.complete {base theme : Theme} {colours : Table} (complete : base.Complete)
    (recoloured : base.Recoloured colours theme) : theme.Complete := by
  intro cls
  rw [recoloured.styles_eq, Option.isSome_map]
  exact complete cls

/-- An entry in front of a table counts for its class where no later one does. -/
theorem lastColour?_cons {cls : TokenClass} {value : Value} {colour : String}
    (written : colourOf? value = some colour) {later : Table}
    (made : ∀ entry ∈ later, Overridable entry) (asked : TokenClass) :
    lastColour? ((cls.name, value) :: later) asked =
      (lastColour? later asked).or (if asked = cls then some colour else none) := by
  unfold lastColour?
  rw [List.reverse_cons, List.lookup_append]
  cases found : later.reverse.lookup asked.name with
  | some held =>
      obtain ⟨front, back, split, _⟩ := List.lookup_eq_some_iff.mp found
      have member : (asked.name, held) ∈ later := by
        rw [← List.mem_reverse, split]
        simp
      cases heldWritten : colourOf? held with
      | none => exact absurd (made _ member).2 (colourOf?_eq_none_iff.mp heldWritten)
      | some heldColour => simp [heldWritten]
  | none =>
      by_cases same : asked = cls
      · simp [same, written]
      · have apart : (asked.name == cls.name) = false :=
          beq_eq_false_iff_ne.mpr fun named => same (TokenClass.name_injective named)
        simp [same, List.lookup_cons, apart]

/-- One override in front of a table of overrides. -/
theorem Recoloured.cons {base theme : Theme} {cls : TokenClass} {style : Style}
    {value : Value} {colour : String} {later : Table} (held : base.styles cls = some style)
    (written : colourOf? value = some colour) (made : ∀ entry ∈ later, Overridable entry)
    (recoloured : (base.recolour cls style colour).Recoloured later theme) :
    base.Recoloured ((cls.name, value) :: later) theme := by
  refine ⟨recoloured.name_eq, recoloured.background_eq, recoloured.foreground_eq,
    recoloured.gutter_eq, fun asked => ?_⟩
  rw [recoloured.styles_eq, styles_recolour, lastColour?_cons written made]
  by_cases same : asked = cls
  · subst same
    rw [if_pos rfl, if_pos rfl, held]
    cases lastColour? later asked <;> rfl
  · rw [if_neg same, if_neg same, Option.or_none]

theorem withOverrides_cons (theme : Theme) (name : String) (value : Value) (later : Table) :
    theme.withOverrides ((name, value) :: later) =
      theme.override name value >>= (·.withOverrides later) :=
  rfl

/-- A table of overrides on a complete theme is made with all of its entries, or its first
entry that cannot be made is refused. -/
theorem withOverrides_cases {theme : Theme} (complete : theme.Complete) (colours : Table) :
    (∃ coloured, theme.withOverrides colours = .ok coloured ∧
        (∀ entry ∈ colours, Overridable entry) ∧ theme.Recoloured colours coloured) ∨
      ∃ before entry after found, colours = before ++ entry :: after ∧
        (∀ earlier ∈ before, Overridable earlier) ∧ Refused entry found ∧
        theme.withOverrides colours = .error found := by
  induction colours generalizing theme with
  | nil => exact .inl ⟨theme, rfl, by simp, .nil theme⟩
  | cons entry later inductionHypothesis =>
      obtain ⟨name, value⟩ := entry
      rw [withOverrides_cons]
      rcases override_cases complete name value with
        ⟨cls, style, colour, rfl, written, held, done⟩ | ⟨found, refused, stopped⟩
      · have overridable : Overridable (cls.name, value) :=
          ⟨⟨cls, rfl⟩, (colourOf?_eq_some_iff.mp written).2⟩
        rw [done]
        rcases inductionHypothesis (complete.recolour cls style colour) with
          ⟨coloured, finished, made, recoloured⟩ |
            ⟨before, entry, after, found, rfl, made, refused, stopped⟩
        · refine .inl ⟨coloured, finished, ?_, recoloured.cons held written made⟩
          exact List.forall_mem_cons.mpr ⟨overridable, made⟩
        · refine .inr ⟨(cls.name, value) :: before, entry, after, found, rfl, ?_, refused,
            stopped⟩
          exact List.forall_mem_cons.mpr ⟨overridable, made⟩
      · rw [stopped]
        exact .inr ⟨[], (name, value), later, found, rfl, by simp, refused, rfl⟩

/-! ## Themes that can be chosen -/

/-- A built-in theme, or a theme that colours were put on, one table after the other. -/
inductive Derived : Theme → Prop
  | builtIn {theme : Theme} (member : theme ∈ Theme.builtIn) : Derived theme
  | overridden {base theme : Theme} {colours : Table} (derived : Derived base)
      (done : base.withOverrides colours = .ok theme) : Derived theme

theorem recoloured_of_withOverrides {base theme : Theme} {colours : Table}
    (complete : base.Complete) (done : base.withOverrides colours = .ok theme) :
    base.Recoloured colours theme := by
  rcases withOverrides_cases complete colours with
    ⟨coloured, finished, _, recoloured⟩ | ⟨_, _, _, _, _, _, _, stopped⟩
  · rw [finished] at done
    cases done
    exact recoloured
  · rw [stopped] at done
    contradiction

theorem Derived.complete {theme : Theme} (derived : theme.Derived) : theme.Complete := by
  induction derived with
  | builtIn member => exact complete_of_mem_builtIn member
  | overridden _ done baseComplete =>
      exact (recoloured_of_withOverrides baseComplete done).complete baseComplete

/-- Colours on top do not change the gutter. -/
theorem Derived.exists_gutter {theme : Theme} (derived : theme.Derived) :
    ∃ base ∈ Theme.builtIn, theme.gutter = base.gutter := by
  induction derived with
  | @builtIn theme member => exact ⟨theme, member, rfl⟩
  | overridden derived done inductionHypothesis =>
      obtain ⟨base, member, same⟩ := inductionHypothesis
      exact ⟨base, member,
        (recoloured_of_withOverrides derived.complete done).gutter_eq.trans same⟩

end Theme

end Highlighter
