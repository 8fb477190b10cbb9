import Highlighter.Proofs.RenderedMarkup
import Highlighter.Token.Builder

/-!
# Rendering loses nothing

A reader that knows spans with a class and a style, and nothing else of markup, gets back the
tokens of a text from what they are rendered as: class, style and text of each token that is not
white space, and the white space between them.  In a block of a theme that can be chosen, the
code holds the source and the gutter numbers its lines.
-/

namespace Highlighter.Markup

open Reading (Leads)

/-! ## Reading spans -/

/-- What stands in a span, with the class and the style of the span. -/
structure StyledText where
  cls : Text
  css : Text
  text : Text
  deriving DecidableEq, Repr

/-- A span, or a character outside of all spans. -/
inductive Item where
  | styled (span : StyledText)
  | bare (c : Char)
  deriving DecidableEq, Repr

/-- The items of what is met in markup, inside the span that is given, if any.  There is no
other element than the span, it has a class and a style, and there is no span in a span. -/
def itemsFrom? : Option StyledText → List Event → Option (List Item)
  | none, [] => some []
  | none, .character c :: later => (itemsFrom? none later).map (.bare c :: ·)
  | none, .opening name [first, second] :: later =>
      if name = "span".toList ∧ first.name = "class".toList ∧ second.name = "style".toList then
        itemsFrom? (some ⟨first.value, second.value, []⟩) later
      else none
  | some span, .character c :: later =>
      itemsFrom? (some { span with text := span.text ++ [c] }) later
  | some span, .closing name :: later =>
      if name = "span".toList then (itemsFrom? none later).map (.styled span :: ·) else none
  | _, _ => none

/-- The items of a text of spans. -/
def items? (text : Text) : Option (List Item) :=
  (events? codePoint? text).bind (itemsFrom? none)

/-- The items that a token is meant to be. -/
def tokenItems (theme : Theme) (token : Token) : List Item :=
  if token.cls = .whitespace then token.text.map .bare
  else [.styled ⟨className token.cls, theme.css token.cls, token.text⟩]

theorem itemsFrom?_bare (text : Text) (later : List Event) :
    itemsFrom? none (text.map .character ++ later) =
      (itemsFrom? none later).map (text.map .bare ++ ·) := by
  induction text with
  | nil => simp
  | cons c rest inductionHypothesis =>
      simp [itemsFrom?, inductionHypothesis, Option.map_map, Function.comp_def]

theorem itemsFrom?_text (span : StyledText) (text : Text) (later : List Event) :
    itemsFrom? (some span) (text.map .character ++ later) =
      itemsFrom? (some { span with text := span.text ++ text }) later := by
  induction text generalizing span with
  | nil => simp
  | cons c rest inductionHypothesis => simp [itemsFrom?, inductionHypothesis]

theorem itemsFrom?_span (cls css text : Text) (later : List Event) :
    itemsFrom? none
        (elementEvents "span" [("class", cls), ("style", css)] (text.map .character) ++ later) =
      (itemsFrom? none later).map (.styled ⟨cls, css, text⟩ :: ·) := by
  simp [elementEvents, itemsFrom?, itemsFrom?_text]

/-- The items of a token are read off what it is met as. -/
theorem itemsFrom?_tokenEvents (theme : Theme) (token : Token) (later : List Event) :
    itemsFrom? none (tokenEvents theme token ++ later) =
      (itemsFrom? none later).map (tokenItems theme token ++ ·) := by
  unfold tokenEvents tokenItems
  split
  · exact itemsFrom?_bare token.text later
  · exact itemsFrom?_span _ _ token.text later

theorem itemsFrom?_flatMap_tokenEvents (theme : Theme) (tokens : List Token) :
    itemsFrom? none (tokens.flatMap (tokenEvents theme)) =
      some (tokens.flatMap (tokenItems theme)) := by
  induction tokens with
  | nil => rfl
  | cons token later inductionHypothesis =>
      rw [List.flatMap_cons, itemsFrom?_tokenEvents, inductionHypothesis]
      rfl

/-! ## Reading elements -/

/-- The character that is met, if it is one. -/
def Event.character? : Event → Option Char
  | .character c => some c
  | .opening _ _ | .closing _ => none

/-- What is met without the tags. -/
def textOf (events : List Event) : Text :=
  events.filterMap Event.character?

/-- The text of the first element that is wanted, up to the next closing tag of its name. -/
def elementText? (wanted : Text → List Attribute → Bool) : List Event → Option Text
  | [] => none
  | .opening name attributes :: later =>
      if wanted name attributes then some (textOf (later.takeWhile (· ≠ .closing name)))
      else elementText? wanted later
  | .closing _ :: later | .character _ :: later => elementText? wanted later

/-- The text of the code element of a block. -/
def codeText? (block : Text) : Option Text :=
  (events? codePoint? block).bind (elementText? fun name _ => name == "code".toList)

/-- The text of the gutter of a block. -/
def gutterText? (block : Text) : Option Text :=
  (events? codePoint? block).bind
    (elementText? fun _ attributes =>
      attributes.contains ⟨"class".toList, "codelex-gutter".toList⟩)

theorem textOf_append (first second : List Event) :
    textOf (first ++ second) = textOf first ++ textOf second :=
  List.filterMap_append

@[simp]
theorem textOf_characters (text : Text) : textOf (text.map .character) = text := by
  induction text with
  | nil => rfl
  | cons c rest inductionHypothesis => simpa [textOf, Event.character?] using inductionHypothesis

theorem textOf_elementEvents (name : String) (attributes : List (String × Text))
    (inside : List Event) : textOf (elementEvents name attributes inside) = textOf inside := by
  have opened : ∀ given later, textOf (.opening name.toList given :: later) = textOf later :=
    fun _ _ => rfl
  rw [elementEvents, List.cons_append, opened, textOf_append]
  exact List.append_nil (textOf inside)

/-- The tags around tokens add nothing to their texts. -/
theorem textOf_tokens (theme : Theme) (tokens : List Token) :
    textOf (tokens.flatMap (tokenEvents theme)) = Token.source tokens := by
  induction tokens with
  | nil => rfl
  | cons token later inductionHypothesis =>
      have own : textOf (tokenEvents theme token) = token.text := by
        unfold tokenEvents
        split
        · exact textOf_characters token.text
        · rw [textOf_elementEvents, textOf_characters]
      rw [List.flatMap_cons, textOf_append, own, inductionHypothesis]
      rfl

section

variable {wanted : Text → List Attribute → Bool}

/-- Elements that are not wanted are passed over. -/
theorem elementText?_append {front : List Event}
    (unwanted : ∀ name attributes, .opening name attributes ∈ front →
      wanted name attributes = false) (later : List Event) :
    elementText? wanted (front ++ later) = elementText? wanted later := by
  induction front with
  | nil => rfl
  | cons event rest inductionHypothesis =>
      have others := inductionHypothesis fun name attributes member =>
        unwanted name attributes (List.mem_cons_of_mem _ member)
      cases event with
      | opening name attributes =>
          have passed := unwanted name attributes List.mem_cons_self
          simp [elementText?, passed, others]
      | closing name => simpa [elementText?] using others
      | character c => simpa [elementText?] using others

/-- An element that is wanted is found with its whole content. -/
theorem elementText?_element {name : String} {attributes : List (String × Text)}
    {inside : List Event}
    (found : wanted name.toList (attributes.map fun (name, value) => ⟨name.toList, value⟩) = true)
    (unclosed : .closing name.toList ∉ inside) (later : List Event) :
    elementText? wanted (elementEvents name attributes inside ++ later) = some (textOf inside) := by
  have kept : ∀ event ∈ inside, decide (event ≠ .closing name.toList) = true := by
    intro event member
    rw [decide_eq_true_eq]
    rintro rfl
    exact unclosed member
  rw [elementEvents, List.cons_append, List.cons_append, elementText?, if_pos found,
    List.append_assoc, List.takeWhile_append_of_pos kept]
  simp

end

theorem opening_mem_elementEvents_iff {name : Text} {attributes : List Attribute}
    {element : String} {written : List (String × Text)} {inside : List Event} :
    .opening name attributes ∈ elementEvents element written inside ↔
      (name = element.toList ∧
          attributes = written.map fun (name, value) => ⟨name.toList, value⟩) ∨
        .opening name attributes ∈ inside := by
  simp [elementEvents]

/-- The tags of tokens are spans with the class of a token. -/
theorem opening_mem_tokens {theme : Theme} {tokens : List Token} {name : Text}
    {attributes : List Attribute}
    (member : .opening name attributes ∈ tokens.flatMap (tokenEvents theme)) :
    name = "span".toList ∧ ∃ cls css,
      attributes = [⟨"class".toList, className cls⟩, ⟨"style".toList, css⟩] := by
  obtain ⟨token, _, met⟩ := List.mem_flatMap.mp member
  unfold tokenEvents at met
  split at met
  · simp at met
  · rcases opening_mem_elementEvents_iff.mp met with ⟨same, written⟩ | inside
    · exact ⟨same, token.cls, theme.css token.cls, written⟩
    · simp at inside

theorem closing_code_not_mem_tokens (theme : Theme) (tokens : List Token) :
    .closing "code".toList ∉ tokens.flatMap (tokenEvents theme) := by
  intro member
  obtain ⟨token, _, met⟩ := List.mem_flatMap.mp member
  unfold tokenEvents at met
  split at met
  · simp at met
  · simp [elementEvents] at met

/-! ## The code and the gutter of a block -/

section

variable (theme : Theme) (gutterColour : Text) (language : Option Language) (numbered : Bool)
  (tokens : List Token)

/-- What is met of a block before its gutter. -/
def beforeGutter : List Event :=
  .opening "div".toList [⟨"class".toList, "codelex".toList⟩, ⟨"style".toList, blockCss theme⟩] ::
    (headingEvents gutterColour language ++
      [.opening "div".toList [⟨"class".toList, "codelex-body".toList⟩]])

theorem blockEvents_eq :
    blockEvents theme gutterColour language numbered tokens =
      beforeGutter theme gutterColour language ++
        (gutterEvents gutterColour numbered ((Token.source tokens).count '\n' + 1) ++
          (listingEvents theme tokens ++ [.closing "div".toList, .closing "div".toList])) := by
  simp [blockEvents, beforeGutter, elementEvents]

variable {theme gutterColour language numbered tokens} {name : Text}
  {attributes : List Attribute}

theorem opening_mem_beforeGutter
    (member : .opening name attributes ∈ beforeGutter theme gutterColour language) :
    name = "div".toList ∧ ⟨"class".toList, "codelex-gutter".toList⟩ ∉ attributes := by
  have heading : .opening name attributes ∈ headingEvents gutterColour language →
      name = "div".toList ∧ ⟨"class".toList, "codelex-gutter".toList⟩ ∉ attributes := by
    intro met
    unfold headingEvents at met
    cases language with
    | none => simp at met
    | some language =>
        rcases opening_mem_elementEvents_iff.mp met with ⟨same, rfl⟩ | inside
        · exact ⟨same, by simp⟩
        · simp at inside
  rcases List.mem_cons.mp member with same | met
  · cases same
    exact ⟨rfl, by simp⟩
  · rcases List.mem_append.mp met with inside | last
    · exact heading inside
    · cases List.mem_singleton.mp last
      exact ⟨rfl, by simp⟩

theorem opening_mem_gutterEvents {count : Nat}
    (member : .opening name attributes ∈ gutterEvents gutterColour numbered count) :
    name = "pre".toList := by
  unfold gutterEvents at member
  split at member
  · rcases opening_mem_elementEvents_iff.mp member with ⟨same, _⟩ | inside
    · exact same
    · simp at inside
  · simp at member

theorem gutterClass_not_mem_of_opening_mem_listingEvents
    (member : .opening name attributes ∈ listingEvents theme tokens) :
    ⟨"class".toList, "codelex-gutter".toList⟩ ∉ attributes := by
  rcases opening_mem_elementEvents_iff.mp member with ⟨_, rfl⟩ | inside
  · simp
  · rcases opening_mem_elementEvents_iff.mp inside with ⟨_, rfl⟩ | met
    · simp
    · obtain ⟨_, cls, css, rfl⟩ := opening_mem_tokens met
      have other : className cls ≠ "codelex-gutter".toList := by cases cls <;> decide
      simpa using other.symm

/-- The code of a block is the source of its tokens. -/
theorem elementText?_code :
    elementText? (fun name _ => name == "code".toList)
        (blockEvents theme gutterColour language numbered tokens) =
      some (Token.source tokens) := by
  have before : ∀ name attributes, .opening name attributes ∈
      beforeGutter theme gutterColour language → (name == "code".toList) = false := by
    intro name attributes member
    rw [(opening_mem_beforeGutter member).1]
    decide
  have gutter : ∀ name attributes, .opening name attributes ∈
      gutterEvents gutterColour numbered ((Token.source tokens).count '\n' + 1) →
        (name == "code".toList) = false := by
    intro name attributes member
    rw [opening_mem_gutterEvents member]
    decide
  rw [blockEvents_eq, elementText?_append before, elementText?_append gutter, listingEvents,
    elementEvents, List.cons_append, List.cons_append, elementText?, if_neg (by decide),
    List.append_assoc, elementText?_element (by decide) (closing_code_not_mem_tokens theme tokens),
    textOf_tokens]

/-- The gutter of a block, when it is shown, holds its line numbers. -/
theorem elementText?_gutter :
    elementText? (fun _ attributes =>
        attributes.contains ⟨"class".toList, "codelex-gutter".toList⟩)
        (blockEvents theme gutterColour language numbered tokens) =
      if numbered then some (lineNumbers ((Token.source tokens).count '\n' + 1)) else none := by
  have before : ∀ name attributes, .opening name attributes ∈
      beforeGutter theme gutterColour language →
        attributes.contains ⟨"class".toList, "codelex-gutter".toList⟩ = false := by
    intro name attributes member
    simpa using (opening_mem_beforeGutter member).2
  rw [blockEvents_eq, elementText?_append before]
  cases numbered with
  | true =>
      have unclosed : .closing "pre".toList ∉
          (lineNumbers ((Token.source tokens).count '\n' + 1)).map Event.character := by simp
      rw [gutterEvents, if_pos rfl, elementText?_element (by simp) unclosed, textOf_characters]
      rfl
  | false =>
      have behind : ∀ name attributes, .opening name attributes ∈
          listingEvents theme tokens ++ [.closing "div".toList, .closing "div".toList] →
            attributes.contains ⟨"class".toList, "codelex-gutter".toList⟩ = false := by
        intro name attributes member
        have inside : .opening name attributes ∈ listingEvents theme tokens := by
          simpa using member
        simpa using gutterClass_not_mem_of_opening_mem_listingEvents inside
      have passed := elementText?_append behind []
      rw [List.append_nil] at passed
      rw [gutterEvents, if_neg (by simp), List.nil_append, passed]
      rfl

end

/-- The lines of line numbers are the numbers from one on. -/
theorem lines_lineNumbers (source : Text) :
    Text.lines (lineNumbers (source.count '\n' + 1)) =
      (List.range source.lines.length).map fun index => Nat.toDigits 10 (index + 1) := by
  have numerals : (List.range (source.count '\n' + 1)).map (fun index => Text.decimal (index + 1)) =
      (List.range source.lines.length).map fun index => Nat.toDigits 10 (index + 1) := by
    rw [Text.length_lines]
    exact List.map_congr_left fun index _ => Text.decimal_eq_toDigits (index + 1)
  have unbroken : ∀ line ∈ (List.range (source.count '\n' + 1)).map
      (fun index => Text.decimal (index + 1)), '\n' ∉ line := by
    intro line member
    obtain ⟨index, _, rfl⟩ := List.mem_map.mp member
    intro broken
    exact absurd (Text.isDigit_of_mem_decimal broken) (by decide)
  rw [lineNumbers, Text.lines_intercalate (by simp) unbroken, numerals]

/-! ## What is recovered -/

/-- No theme that can be chosen has a quote in its gutter colour. -/
theorem quote_not_mem_gutter {theme : Theme} (derived : theme.Derived) :
    '\x22' ∉ theme.gutter.toList := by
  have builtIn : ∀ base ∈ Theme.builtIn, '\x22' ∉ base.gutter.toList := by decide
  obtain ⟨base, member, same⟩ := derived.exists_gutter
  rw [same]
  exact builtIn base member

/-- The items of rendered tokens are the tokens. -/
theorem items?_renderTokens {theme : Theme} (complete : theme.Complete) (tokens : List Token) :
    ∃ code, renderTokens theme tokens = .ok code ∧
      items? code = some (tokens.flatMap (tokenItems theme)) := by
  obtain ⟨code, rendered, read⟩ := exists_renderTokens_read complete
    fun token (_ : token ∈ tokens) => refers_codePoint? token.text
  refine ⟨code, rendered, ?_⟩
  rw [items?, events?_of_leads read]
  exact itemsFrom?_flatMap_tokenEvents theme tokens

/-- The tokens are recovered from what they are rendered as, in every theme with a style for
each class.  In every theme that can be chosen, the code of a block is the source and the gutter
numbers the lines of the source from one on. -/
theorem rendered_tokens_recovered (tokens : List Token) :
    (∀ theme : Theme, theme.Complete →
      ∃ code, renderTokens theme tokens = .ok code ∧
        items? code = some (tokens.flatMap (tokenItems theme))) ∧
    (∀ theme : Theme, theme.Derived → ∀ language numbered,
      ∃ block, renderBlock theme language numbered tokens = .ok block ∧
        codeText? block = some (Token.source tokens) ∧
        (gutterText? block).map Text.lines =
          if numbered then
            some ((List.range (Token.source tokens).lines.length).map
              fun index => Nat.toDigits 10 (index + 1))
          else none) := by
  refine ⟨fun theme complete => items?_renderTokens complete tokens,
    fun theme derived language numbered => ?_⟩
  obtain ⟨block, rendered, read⟩ := exists_renderBlock_read derived.complete language numbered
    tokens (.inr (quote_not_mem_gutter derived))
  have met := events?_of_leads read
  refine ⟨block, rendered, ?_, ?_⟩
  · rw [codeText?, met]
    exact elementText?_code
  · rw [gutterText?, met, Option.bind_some, elementText?_gutter]
    cases numbered with
    | true => simp [lines_lineNumbers]
    | false => rfl

/-- A text that looks like markup is recovered in its overridden colour. -/
theorem rendered_tokens_recovered_overridden :
    (∃ code,
      renderTokens (Theme.darkPlus.recolour .string ⟨"#CE9178", none⟩ "#00ff00")
          (Token.layout true [⟨.string, "'</span>&é'".toList⟩, ⟨.whitespace, ['\n']⟩]) = .ok code ∧
        items? code = some [.styled ⟨"tok-string".toList, "color:#00ff00".toList,
          "'</span>&é'".toList⟩, .bare '\n']) ∧
    (∃ block,
      renderBlock (Theme.darkPlus.recolour .string ⟨"#CE9178", none⟩ "#00ff00") (some .python) true
          (Token.layout true [⟨.string, "'</span>&é'".toList⟩, ⟨.whitespace, ['\n']⟩]) =
            .ok block ∧
        codeText? block = some "'</span>&é'\n".toList ∧
        (gutterText? block).map Text.lines = some [['1'], ['2']]) := by
  have done : Theme.darkPlus.withOverrides [("string", .text "#00ff00")] =
      .ok (Theme.darkPlus.recolour .string ⟨"#CE9178", none⟩ "#00ff00") := rfl
  have derived : (Theme.darkPlus.recolour .string ⟨"#CE9178", none⟩ "#00ff00").Derived :=
    .overridden (.builtIn List.mem_cons_self) done
  have recovered := rendered_tokens_recovered
    (Token.layout true [⟨.string, "'</span>&é'".toList⟩, ⟨.whitespace, ['\n']⟩])
  exact ⟨recovered.1 _ derived.complete, recovered.2 _ derived (some .python) true⟩

end Highlighter.Markup
