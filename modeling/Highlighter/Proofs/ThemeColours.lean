import Highlighter.Proofs.RenderedMarkup

/-!
# What colours can do to markup

The tags of a block and its styles are what a reader sees of its colours.  Token colours and
the colours of the block are escaped, whatever they are, and stay inside their attribute.  The
gutter colour is not: a quote in it ends the attribute, and a reference in it is resolved.  So
the markup of a block is the intended one exactly if the gutter colour is not written at all,
or has no quote and is read as itself.
-/

namespace Highlighter.Markup

open Reading (Leads)

/-! ## Tags and styles -/

/-- A tag without the values of its attributes. -/
inductive Tag where
  | opening (name : Text) (attributes : List Text)
  | closing (name : Text)
  deriving DecidableEq, Repr

/-- The tag that is met, if it is one. -/
def Event.tag? : Event → Option Tag
  | .opening name attributes => some (.opening name (attributes.map (·.name)))
  | .closing name => some (.closing name)
  | .character _ => none

/-- The values of the style attributes of what is met. -/
def Event.styles : Event → List Text
  | .opening _ attributes => (attributes.filter (·.name == "style".toList)).map (·.value)
  | .closing _ | .character _ => []

/-- The tags of markup with the names of their attributes. -/
def tags? (markup : Text) : Option (List Tag) :=
  (events? codePoint? markup).map (·.filterMap Event.tag?)

/-- The values of all style attributes of markup, unescaped. -/
def styles? (markup : Text) : Option (List Text) :=
  (events? codePoint? markup).map (·.flatMap Event.styles)

/-- The styles of a block whose gutter colour is read as the given one. -/
def blockStyles (theme : Theme) (gutterColour : Text) (language : Option Language)
    (numbered : Bool) (tokens : List Token) : List Text :=
  blockCss theme ::
    ((if language.isSome then [gutterCss gutterColour] else []) ++
      ((if numbered then [gutterCss gutterColour] else []) ++
        (tokens.filter (·.cls ≠ .whitespace)).map fun token => theme.css token.cls))

/-- The colours of a theme are no more than colours in a block: the block has the tags that it
has in the standard theme, and the intended styles. -/
def Intact (theme : Theme) (language : Option Language) (numbered : Bool)
    (tokens : List Token) : Prop :=
  ∃ block plain,
    renderBlock theme language numbered tokens = .ok block ∧
      renderBlock .standard language numbered tokens = .ok plain ∧
      (tags? plain).isSome ∧ tags? block = tags? plain ∧
      styles? block = some (blockStyles theme theme.gutter.toList language numbered tokens)

section

variable (name : String) (attributes : List (String × Text)) (inside : List Event)

theorem tags_elementEvents :
    (elementEvents name attributes inside).filterMap Event.tag? =
      .opening name.toList (attributes.map fun (name, _) => name.toList) ::
        inside.filterMap Event.tag? ++ [.closing name.toList] := by
  simp [elementEvents, Event.tag?, Function.comp_def]

theorem styles_elementEvents :
    (elementEvents name attributes inside).flatMap Event.styles =
      ((attributes.filter fun (name, _) => name.toList == "style".toList).map (·.2)) ++
        inside.flatMap Event.styles := by
  simp [elementEvents, Event.styles, List.filter_map, Function.comp_def]

end

@[simp]
theorem tags_characters (text : Text) : (text.map Event.character).filterMap Event.tag? = [] := by
  simp [List.filterMap_map, Function.comp_def, Event.tag?]

@[simp]
theorem styles_characters (text : Text) : (text.map Event.character).flatMap Event.styles = [] := by
  simp [List.flatMap_map, Event.styles]

/-- The tags of tokens are the same in all themes. -/
theorem tags_tokens (theme other : Theme) (tokens : List Token) :
    (tokens.flatMap (tokenEvents theme)).filterMap Event.tag? =
      (tokens.flatMap (tokenEvents other)).filterMap Event.tag? := by
  induction tokens with
  | nil => rfl
  | cons token later inductionHypothesis =>
      have own : (tokenEvents theme token).filterMap Event.tag? =
          (tokenEvents other token).filterMap Event.tag? := by
        unfold tokenEvents
        split
        · rfl
        · simp [tags_elementEvents]
      simp [own, inductionHypothesis]

theorem styles_tokens (theme : Theme) (tokens : List Token) :
    (tokens.flatMap (tokenEvents theme)).flatMap Event.styles =
      (tokens.filter (·.cls ≠ .whitespace)).map fun token => theme.css token.cls := by
  induction tokens with
  | nil => rfl
  | cons token later inductionHypothesis =>
      have own : (tokenEvents theme token).flatMap Event.styles =
          if token.cls = .whitespace then [] else [theme.css token.cls] := by
        unfold tokenEvents
        split
        · exact styles_characters token.text
        · simp [styles_elementEvents]
      rw [List.flatMap_cons, List.flatMap_append, inductionHypothesis, own]
      by_cases blank : token.cls = .whitespace <;> simp [blank]

section

variable (theme other : Theme) (gutterColour otherColour : Text) (language : Option Language)
  (numbered : Bool) (tokens : List Token)

/-- The tags of a block that is read as meant are the same for all themes and gutter colours. -/
theorem tags_blockEvents :
    (blockEvents theme gutterColour language numbered tokens).filterMap Event.tag? =
      (blockEvents other otherColour language numbered tokens).filterMap Event.tag? := by
  have heading : (headingEvents gutterColour language).filterMap Event.tag? =
      (headingEvents otherColour language).filterMap Event.tag? := by
    cases language <;> simp [headingEvents, tags_elementEvents]
  have numbers : ∀ count, (gutterEvents gutterColour numbered count).filterMap Event.tag? =
      (gutterEvents otherColour numbered count).filterMap Event.tag? := by
    intro count
    cases numbered <;> simp [gutterEvents, tags_elementEvents]
  simp only [blockEvents, listingEvents, tags_elementEvents, List.filterMap_append, heading,
    numbers, tags_tokens theme other, List.map_cons, List.map_nil]

theorem styles_blockEvents :
    (blockEvents theme gutterColour language numbered tokens).flatMap Event.styles =
      blockStyles theme gutterColour language numbered tokens := by
  have heading : (headingEvents gutterColour language).flatMap Event.styles =
      if language.isSome then [gutterCss gutterColour] else [] := by
    cases language <;> simp [headingEvents, styles_elementEvents]
  have numbers : ∀ count, (gutterEvents gutterColour numbered count).flatMap Event.styles =
      if numbered then [gutterCss gutterColour] else [] := by
    intro count
    cases numbered <;> simp [gutterEvents, styles_elementEvents]
  simp [blockEvents, listingEvents, styles_elementEvents, heading, numbers, styles_tokens,
    blockStyles]

end

/-! ## A gutter colour without quotes -/

section

variable {theme : Theme}

/-- Without a quote in the gutter colour a block has the tags it has in the standard theme, and
its styles are the intended ones up to the references in this colour. -/
theorem exists_renderBlock_styles (complete : theme.Complete) (language : Option Language)
    (numbered : Bool) (tokens : List Token)
    (unquoted : (language = none ∧ numbered = false) ∨ '\x22' ∉ theme.gutter.toList) :
    ∃ block plain,
      renderBlock theme language numbered tokens = .ok block ∧
        renderBlock .standard language numbered tokens = .ok plain ∧
        (tags? plain).isSome ∧ tags? block = tags? plain ∧
        styles? block = some (blockStyles theme (unescape codePoint? theme.gutter.toList)
          language numbered tokens) := by
  have standard : Theme.standard.Complete ∧ '\x22' ∉ Theme.standard.gutter.toList :=
    ⟨Theme.complete_of_mem_builtIn (List.mem_cons_of_mem _ List.mem_cons_self), by decide⟩
  obtain ⟨block, written, read⟩ :=
    exists_renderBlock_read complete language numbered tokens unquoted
  obtain ⟨plain, plainWritten, plainRead⟩ :=
    exists_renderBlock_read standard.1 language numbered tokens (.inr standard.2)
  refine ⟨block, plain, written, plainWritten, ?_, ?_, ?_⟩
  · simp [tags?, events?_of_leads plainRead]
  · rw [tags?, tags?, events?_of_leads read, events?_of_leads plainRead, Option.map_some,
      Option.map_some, tags_blockEvents]
  · rw [styles?, events?_of_leads read, Option.map_some, styles_blockEvents]

/-- Escaping the gutter colour beforehand makes the markup the intended one, whatever the
colours are. -/
theorem exists_renderBlock_escapedGutter (complete : theme.Complete)
    (language : Option Language) (numbered : Bool) (tokens : List Token) :
    ∃ block plain,
      renderBlock { theme with gutter := .ofList (escapeAttribute theme.gutter.toList) } language
          numbered tokens = .ok block ∧
        renderBlock .standard language numbered tokens = .ok plain ∧
        (tags? plain).isSome ∧ tags? block = tags? plain ∧
        styles? block =
          some (blockStyles theme theme.gutter.toList language numbered tokens) := by
  have unquoted : '\x22' ∉
      (String.ofList (escapeAttribute theme.gutter.toList)).toList := by
    rw [String.toList_ofList]
    exact quote_not_mem_escapeAttribute theme.gutter.toList
  obtain ⟨block, plain, written, plainWritten, readable, tags, styles⟩ :=
    @exists_renderBlock_styles
      { theme with gutter := .ofList (escapeAttribute theme.gutter.toList) }
      complete language numbered tokens (.inr unquoted)
  rw [String.toList_ofList, unescape_escapeAttribute] at styles
  exact ⟨block, plain, written, plainWritten, readable, tags, styles⟩

end

/-! ## A quote in the gutter colour -/

/-- A reader is inside a tag, behind some of its attributes. -/
def Stage.Inside (element : Text) (front : List Attribute) : Stage → Prop
  | .attributeName name attributes _ | .equalsSign name attributes _ | .value name attributes _ _
  | .afterValue name attributes => name = element ∧ front <+: attributes
  | .content _ | .bracket | .closingName _ | .openingName _ => False

theorem Stage.inside_afterValue (element : Text) (front : List Attribute) :
    (Stage.afterValue element front).Inside element front :=
  ⟨rfl, List.prefix_refl front⟩

section

variable {referent : Nat → Option Char} {element : Text} {front : List Attribute}

/-- A reader inside a tag keeps the attributes behind it, up to the end of the tag. -/
theorem step_inside {stage next : Stage} {c : Char} {met : List Event}
    (inside : stage.Inside element front) (went : step referent stage c = some (next, met)) :
    (next.Inside element front ∧ met = []) ∨
      ∃ more, next = .content none ∧ met = [.opening element (front ++ more)] := by
  cases stage with
  | content | bracket | closingName | openingName => exact inside.elim
  | attributeName name attributes own =>
      simp only [step] at went
      split at went
      · cases went
        exact .inl ⟨inside, rfl⟩
      · split at went
        · cases went
          exact .inl ⟨inside, rfl⟩
        · contradiction
  | equalsSign name attributes own =>
      simp only [step] at went
      split at went
      · cases went
        exact .inl ⟨inside, rfl⟩
      · contradiction
  | value name attributes own written =>
      simp only [step] at went
      split at went
      · cases went
        exact .inl ⟨⟨inside.1, inside.2.trans (List.prefix_append _ _)⟩, rfl⟩
      · cases went
        exact .inl ⟨inside, rfl⟩
  | afterValue name attributes =>
      simp only [step, tagStep] at went
      split at went
      · cases went
        obtain ⟨rfl, more, rfl⟩ := inside
        exact .inr ⟨more, rfl, rfl⟩
      · split at went
        · cases went
          exact .inl ⟨inside, rfl⟩
        · contradiction

/-- A reader who gets from inside a tag to content meets the tag first, with the attributes
that were behind the reader. -/
theorem run_inside {stage : Stage} {text : Text} {pending : Option Text} {met : List Event}
    (inside : stage.Inside element front)
    (went : Leads (step referent) stage text (.content pending) met) :
    ∃ more later, met = .opening element (front ++ more) :: later := by
  induction text generalizing stage met with
  | nil =>
      cases went
      exact inside.elim
  | cons c rest inductionHypothesis =>
      obtain ⟨⟨next, here⟩, first, others⟩ := Option.bind_eq_some_iff.mp went
      obtain ⟨⟨last, later⟩, read, same⟩ := Option.map_eq_some_iff.mp others
      cases same
      rcases step_inside inside first with ⟨still, rfl⟩ | ⟨more, rfl, rfl⟩
      · exact inductionHypothesis still read
      · exact ⟨more, later, rfl⟩

/-- Markup is read if the reader is led to content. -/
theorem leads_of_events? {text : Text} {met : List Event}
    (read : events? referent text = some met) :
    ∃ pending certain, Leads (step referent) (.content none) text (.content pending) certain ∧
      met = certain ++ (heldBack pending).map .character := by
  unfold events? at read
  split at read
  · next pending certain went => exact ⟨pending, certain, went, (Option.some.inj read).symm⟩
  · contradiction

end

section

variable {theme : Theme} {front rest : Text}

theorem gutterCss_append (first second : Text) :
    gutterCss (first ++ second) = gutterCss first ++ second :=
  (List.append_assoc "color:".toList first second).symm

/-- An element in the gutter colour. -/
def gutterColoured (theme : Theme) (name cls : String) (inside : Text) : Text :=
  element name (attributeText "class" cls.toList ++ gutterStyle theme) inside

/-- A quote in the gutter colour cuts off the style that is read. -/
theorem styles_of_quoted_gutter (split : theme.gutter.toList = front ++ '\x22' :: rest)
    (unquoted : '\x22' ∉ front) {name cls : String} (named : IsName name.toList)
    (classUnquoted : '\x22' ∉ cls.toList) {opened inside behind : Text} {met all : List Event}
    (read : Leads (step codePoint?) (.content none) opened (.content none) met)
    (whole : events? codePoint? (opened ++ (gutterColoured theme name cls inside ++ behind)) =
      some all) :
    ∃ later, all.flatMap Event.styles =
      met.flatMap Event.styles ++ unescape codePoint? (gutterCss front) :: later := by
  have attributeNames : IsName "class".toList ∧ IsName "style".toList := by decide
  have property : '\x22' ∉ gutterCss front := fun member =>
    (List.mem_append.mp member).elim (by decide) unquoted
  have begun : step codePoint? (.openingName name.toList) ' ' =
      some (.attributeName name.toList [] [], []) := by
    simp [step, tagStep, show isNameChar ' ' = false by decide]
  have tag := (read.append (leads_openingName named)).append
    (leads_attributeRead begun attributeNames.1 classUnquoted)
  have quote : Leads (step codePoint?)
      (.value name.toList [.ofWritten codePoint? ("class", cls.toList)] "style".toList
        (gutterCss front)) ['\x22']
      (.afterValue name.toList [.ofWritten codePoint? ("class", cls.toList),
        ⟨"style".toList, unescape codePoint? (gutterCss front)⟩]) [] := .single rfl
  have cut := (tag.append (leads_attributeValue rfl attributeNames.2 property)).append quote
  -- The rest of the colour stands where the next attribute is expected.
  have text : opened ++ (gutterColoured theme name cls inside ++ behind) =
      opened ++ '<' :: name.toList ++ attributeText "class" cls.toList ++
          (' ' :: "style".toList ++ ['=', '\x22'] ++ gutterCss front) ++ ['\x22'] ++
        (rest ++ '\x22' :: '>' :: inside ++ ['<', '/'] ++ name.toList ++ ['>'] ++ behind) := by
    have style : gutterStyle theme = attributeText "style" (gutterCss front ++ '\x22' :: rest) := by
      change attributeText "style" (gutterCss theme.gutter.toList) = _
      rw [split, gutterCss_append]
    simp [gutterColoured, element, style, attributeText]
  rw [text] at whole
  obtain ⟨pending, certain, went, rfl⟩ := leads_of_events? whole
  obtain ⟨later, rfl, behindCut⟩ := cut.of_append went
  obtain ⟨more, others, rfl⟩ := run_inside (Stage.inside_afterValue _ _) behindCut
  refine ⟨(more.filter (·.name == "style".toList)).map (·.value) ++
    others.flatMap Event.styles, ?_⟩
  simp [Event.styles, Attribute.ofWritten]

variable {language : Option Language} {numbered : Bool} {tokens : List Token} {block : Text}

/-- The first element in the gutter colour, in the text of a block that has one. -/
theorem exists_gutterColoured (shown : ¬ (language = none ∧ numbered = false))
    (written : renderBlock theme language numbered tokens = .ok block) :
    ∃ opened met inside behind, ∃ name cls : String,
      block = opened ++ (gutterColoured theme name cls inside ++ behind) ∧
        Leads (step codePoint?) (.content none) opened (.content none) met ∧
        met.flatMap Event.styles = [blockCss theme] ∧
        IsName name.toList ∧ '\x22' ∉ cls.toList := by
  have names : IsName "div".toList ∧ IsName "pre".toList := by decide
  have classes : '\x22' ∉ "codelex".toList ∧ '\x22' ∉ "codelex-header".toList ∧
      '\x22' ∉ "codelex-body".toList ∧ '\x22' ∉ "codelex-gutter".toList := by decide
  have opened := @leads_opening codePoint? _ names.1 _
    (proper_classAndStyle classes.1 (quote_not_mem_escapeAttribute (blockCss theme)))
  rw [attributesText_classAndStyle] at opened
  cases rendered : renderTokens theme tokens with
  | error missing =>
      rw [renderBlock, rendered] at written
      contradiction
  | ok code =>
      rw [renderBlock, rendered] at written
      cases written
      have css : declarations ⟨theme.foreground, some theme.background⟩ = blockCss theme := rfl
      cases language with
      | some language =>
          refine ⟨_, _, escapeContent language.label,
            element "div" (attributeText "class" "codelex-body".toList)
              ((if numbered then gutter theme (Token.source tokens) else []) ++
                element "pre" (attributeText "class" "codelex-code".toList)
                  (element "code" [] code)) ++ (['<', '/'] ++ "div".toList ++ ['>']),
            "div", "codelex-header", ?_, opened, ?_, names.1, classes.2.1⟩
          · have heading : badge theme language =
                gutterColoured theme "div" "codelex-header" (escapeContent language.label) := rfl
            simp [element, heading, css]
          · simp [Event.styles, Attribute.ofWritten]
      | none =>
          obtain rfl : numbered = true := by simpa using shown
          have proper : ∀ written ∈ [("class", "codelex-body".toList)], Proper written :=
            List.forall_mem_singleton.mpr ⟨by decide, classes.2.2.1⟩
          have bodyOpened := @leads_opening codePoint? _ names.1 _ proper
          rw [attributesText_class] at bodyOpened
          refine ⟨_, _, lineNumbers ((Token.source tokens).count '\n' + 1),
            element "pre" (attributeText "class" "codelex-code".toList)
                (element "code" [] code) ++ (['<', '/'] ++ "div".toList ++ ['>']) ++
              (['<', '/'] ++ "div".toList ++ ['>']),
            "pre", "codelex-gutter", ?_, opened.append bodyOpened, ?_, names.2, classes.2.2.2⟩
          · have numbers : gutter theme (Token.source tokens) = gutterColoured theme "pre"
                "codelex-gutter" (lineNumbers ((Token.source tokens).count '\n' + 1)) := rfl
            simp [element, numbers, css]
          · simp [Event.styles, Attribute.ofWritten]

/-- The style behind the one of the block, if the gutter colour is written in it. -/
theorem gutterStyle_of_shown (shown : ¬ (language = none ∧ numbered = false)) {colour : Text} :
    (blockStyles theme colour language numbered tokens).tail.head? = some (gutterCss colour) := by
  cases language with
  | some language => rfl
  | none =>
      obtain rfl : numbered = true := by simpa using shown
      rfl

/-- With a quote in the gutter colour the styles of a block are not the intended ones: what is
read of the colour is shorter than the colour. -/
theorem styles?_ne_of_quoted (quoted : '\x22' ∈ theme.gutter.toList)
    (shown : ¬ (language = none ∧ numbered = false))
    (written : renderBlock theme language numbered tokens = .ok block) :
    styles? block ≠ some (blockStyles theme theme.gutter.toList language numbered tokens) := by
  intro intended
  obtain ⟨front, rest, split, unquoted⟩ := List.eq_append_cons_of_mem quoted
  obtain ⟨opened, met, inside, behind, name, cls, rfl, read, outer, named, classUnquoted⟩ :=
    exists_gutterColoured shown written
  obtain ⟨all, whole, styles⟩ := Option.map_eq_some_iff.mp intended
  obtain ⟨later, cut⟩ := styles_of_quoted_gutter split unquoted named classUnquoted read whole
  have same : unescape codePoint? (gutterCss front) = gutterCss theme.gutter.toList := by
    have first := congrArg (·.tail.head?) styles
    rw [cut, outer, gutterStyle_of_shown shown] at first
    exact Option.some.inj first
  have shorter := @length_unescape_le codePoint? (gutterCss front)
  rw [same, split, gutterCss_append, List.length_append, List.length_cons] at shorter
  omega

/-- The colours of a theme are no more than colours in a block exactly if the gutter colour is
not written in it, or has no quote and is read as itself. -/
theorem intact_iff (complete : theme.Complete) :
    Intact theme language numbered tokens ↔
      (language = none ∧ numbered = false) ∨
        ('\x22' ∉ theme.gutter.toList ∧
          unescape codePoint? theme.gutter.toList = theme.gutter.toList) := by
  constructor
  · rintro ⟨block, plain, written, _, _, _, intended⟩
    by_cases shown : language = none ∧ numbered = false
    · exact .inl shown
    · have unquoted : '\x22' ∉ theme.gutter.toList := fun quoted =>
        styles?_ne_of_quoted quoted shown written intended
      obtain ⟨_, _, rewritten, _, _, _, styles⟩ :=
        exists_renderBlock_styles complete language numbered tokens (.inr unquoted)
      cases written.symm.trans rewritten
      have same : blockStyles theme (unescape codePoint? theme.gutter.toList) language numbered
          tokens = blockStyles theme theme.gutter.toList language numbered tokens :=
        Option.some.inj (styles.symm.trans intended)
      have second := congrArg (·.tail.head?) same
      simp only [gutterStyle_of_shown shown] at second
      exact .inr ⟨unquoted, List.append_cancel_left (Option.some.inj second)⟩
  · intro harmless
    obtain ⟨block, plain, written, plainWritten, readable, tags, styles⟩ :=
      exists_renderBlock_styles complete language numbered tokens (harmless.imp id And.left)
    refine ⟨block, plain, written, plainWritten, readable, tags, styles.trans ?_⟩
    rcases harmless with ⟨rfl, rfl⟩ | ⟨_, same⟩
    · rfl
    · rw [same]

end

/-- Token colours and the colours of the block are kept inside their attributes, even if they
look like markup themselves. -/
theorem intact_markup_in_colours :
    Theme.Complete
        ⟨"odd", fun _ => some ⟨"red\x22><b>&amp;", some "\x22"⟩, "\x22></div>", "&quot;", "a&b"⟩ ∧
      Intact
        ⟨"odd", fun _ => some ⟨"red\x22><b>&amp;", some "\x22"⟩, "\x22></div>", "&quot;", "a&b"⟩
        (some .python) true [⟨.identifier, ['x'], ⟨.start, .after ['x']⟩⟩] :=
  ⟨fun _ => rfl, (intact_iff fun _ => rfl).mpr (.inr ⟨by decide, by decide⟩)⟩

/-- A quote in the gutter colour adds an attribute to the line numbers. -/
theorem quoted_gutter_adds_attribute :
    Theme.Complete { Theme.standard with gutter := "red\x22 onclick=\x22x" } ∧
      ¬ Intact { Theme.standard with gutter := "red\x22 onclick=\x22x" } none true
        [⟨.identifier, ['x'], ⟨.start, .after ['x']⟩⟩] := by
  refine ⟨fun _ => rfl, ?_⟩
  rintro ⟨block, plain, written, plainWritten, _, tags, _⟩
  cases written
  cases plainWritten
  exact absurd tags (by decide +kernel)

end Highlighter.Markup
