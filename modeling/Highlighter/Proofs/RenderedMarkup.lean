import Highlighter.Proofs.MarkupReading
import Highlighter.Proofs.Overrides
import Highlighter.Proofs.TextLines
import Mathlib.Tactic.SplitIfs

/-!
# What is read in rendered tokens

Escaping a text and reading it back gives the text, in the content of an element as in the value
of an attribute.  So the spans of tokens are read with their class, their style and their text,
whatever the texts and the colours are.  The gutter colour of a block is written as it is: a
block is read as it is meant with the references in this colour resolved, unless a quote in it
ends the attribute.
-/

namespace Highlighter

/-- The declarations of the style of a class. -/
def Theme.css (theme : Theme) (cls : TokenClass) : Text :=
  ((theme.styles cls).map Markup.declarations).getD []

namespace Markup

open Reading (Leads)

/-! ## Escaped texts -/

section

variable {referent : Nat → Option Char}

/-- A reader for whom numbers refer to the characters of a text by their code points. -/
def Refers (referent : Nat → Option Char) (text : Text) : Prop :=
  ∀ c ∈ text, 0x7F < c.toNat → referent c.toNat = some c

theorem refers_codePoint? (text : Text) : Refers codePoint? text :=
  fun c _ _ => codePoint?_toNat c

/-- The reference to a character beyond ASCII stands for the character. -/
theorem resolve_codePoint {c : Char} (known : referent c.toNat = some c) :
    resolve referent none ("&#x".toList ++ Text.capitalHexadecimal c.toNat ++ [';']) =
      (none, [c]) := by
  have digits : ∀ d ∈ Text.capitalHexadecimal c.toNat, d ≠ ';' ∧ d ≠ '&' := by
    intro d member
    have digit := Text.isSome_hexValue?_of_mem_capitalHexadecimal member
    constructor <;> rintro rfl <;> exact absurd digit (by decide)
  have inside : ∀ d ∈ '#' :: 'x' :: Text.capitalHexadecimal c.toNat, d ≠ ';' ∧ d ≠ '&' := by
    simpa using digits
  apply resolve_reference inside
  simp [referenced?, Text.capitalHexadecimal_ne_nil, known]

/-- How a character is written where a mark may not stand: by its name, in the content of an
element beyond ASCII by its number, or as it is. -/
inductive Escaped (mark c : Char) : Text → Prop
  | named (name : Text) (member : (name, c) ∈ namedReferences) :
      Escaped mark c ('&' :: name ++ [';'])
  | numbered (content : mark = '<') (beyond : 0x7F < c.toNat) :
      Escaped mark c ("&#x".toList ++ Text.capitalHexadecimal c.toNat ++ [';'])
  | shown (plain : c ≠ '&') (other : c ≠ mark) : Escaped mark c [c]

theorem escaped_escapeContentChar (c : Char) : Escaped '<' c (escapeContentChar c) := by
  unfold escapeContentChar
  split_ifs with ampersand less greater beyond
  · exact .named "amp".toList (by simp [namedReferences, ampersand])
  · exact .named "lt".toList (by simp [namedReferences, less])
  · exact .named "gt".toList (by simp [namedReferences, greater])
  · exact .numbered rfl beyond
  · exact .shown ampersand less

theorem escaped_escapeAttributeChar (c : Char) : Escaped '\x22' c (escapeAttributeChar c) := by
  unfold escapeAttributeChar
  split_ifs with ampersand less greater quote
  · exact .named "amp".toList (by simp [namedReferences, ampersand])
  · exact .named "lt".toList (by simp [namedReferences, less])
  · exact .named "gt".toList (by simp [namedReferences, greater])
  · exact .named "quot".toList (by simp [namedReferences, quote])
  · exact .shown ampersand quote

/-- A character is read back from how it is written. -/
theorem Escaped.resolve_eq {mark c : Char} {written : Text} (escaped : Escaped mark c written)
    (known : mark = '<' → 0x7F < c.toNat → referent c.toNat = some c) :
    resolve referent none written = (none, [c]) := by
  cases escaped with
  | named name member =>
      have each : ∀ entry ∈ namedReferences,
          resolve referent none ('&' :: entry.1 ++ [';']) = (none, [entry.2]) := by
        simp only [namedReferences, List.forall_mem_cons]
        exact ⟨rfl, rfl, rfl, rfl, fun _ member => absurd member List.not_mem_nil⟩
      exact each _ member
  | numbered content beyond => exact resolve_codePoint (known content beyond)
  | shown plain other => exact resolve_plain (by simpa using plain.symm)

/-- The mark that may not stand there is not written. -/
theorem Escaped.mark_not_mem {mark c : Char} {written : Text} (escaped : Escaped mark c written)
    (special : mark = '<' ∨ mark = '\x22') : mark ∉ written := by
  cases escaped with
  | named name member =>
      have each : ∀ entry ∈ namedReferences, '<' ∉ '&' :: entry.1 ++ [';'] ∧
          '\x22' ∉ '&' :: entry.1 ++ [';'] := by decide
      rcases special with rfl | rfl
      · exact (each _ member).1
      · exact (each _ member).2
  | numbered content beyond =>
      subst content
      intro member
      have digit : '<' ∈ Text.capitalHexadecimal c.toNat := by simpa using member
      exact absurd (Text.isSome_hexValue?_of_mem_capitalHexadecimal digit) (by decide)
  | shown plain other => simpa using other.symm

/-- No character of an escaped content opens a tag. -/
theorem lt_not_mem_escapeContent (text : Text) : '<' ∉ escapeContent text := by
  intro member
  obtain ⟨c, _, written⟩ := List.mem_flatMap.mp member
  exact (escaped_escapeContentChar c).mark_not_mem (.inl rfl) written

/-- No character of an escaped value ends the value. -/
theorem quote_not_mem_escapeAttribute (text : Text) : '\x22' ∉ escapeAttribute text := by
  intro member
  obtain ⟨c, _, written⟩ := List.mem_flatMap.mp member
  exact (escaped_escapeAttributeChar c).mark_not_mem (.inr rfl) written

theorem resolve_escapeContent {text : Text} (refers : Refers referent text) :
    resolve referent none (escapeContent text) = (none, text) :=
  resolve_flatMap fun c member =>
    (escaped_escapeContentChar c).resolve_eq fun _ => refers c member

@[simp]
theorem unescape_escapeAttribute (text : Text) :
    unescape referent (escapeAttribute text) = text := by
  have resolved : resolve referent none (escapeAttribute text) = (none, text) :=
    resolve_flatMap fun c _ => (escaped_escapeAttributeChar c).resolve_eq fun content =>
      absurd content (by decide)
  simp [unescape, resolved, heldBack]

/-- An escaped content is read as the text that was escaped. -/
theorem leads_escapeContent {text : Text} (refers : Refers referent text) :
    Leads (step referent) (.content none) (escapeContent text) (.content none)
      (text.map .character) :=
  leads_content_of_resolve (lt_not_mem_escapeContent text) (resolve_escapeContent refers)

/-! ## Tokens -/

/-- An element with the attributes that are meant. -/
def elementEvents (name : String) (attributes : List (String × Text)) (inside : List Event) :
    List Event :=
  .opening name.toList (attributes.map fun (name, value) => ⟨name.toList, value⟩) :: inside ++
    [.closing name.toList]

/-- The class attribute of a token class. -/
def className (cls : TokenClass) : Text :=
  "tok-".toList ++ cls.name.toList

/-- What a token is read as. -/
def tokenEvents (theme : Theme) (token : Token) : List Event :=
  if token.cls = .whitespace then token.text.map .character
  else
    elementEvents "span" [("class", className token.cls), ("style", theme.css token.cls)]
      (token.text.map .character)

theorem ampersand_not_mem_className (cls : TokenClass) : '&' ∉ className cls := by
  cases cls <;> decide

theorem quote_not_mem_className (cls : TokenClass) : '\x22' ∉ className cls := by
  cases cls <;> decide

theorem attributesText_class (cls : Text) :
    attributesText [("class", cls)] = attributeText "class" cls := by
  simp [attributesText]

theorem attributesText_classAndStyle (cls style : Text) :
    attributesText [("class", cls), ("style", style)] =
      attributeText "class" cls ++ attributeText "style" style := by
  simp [attributesText]

/-- An element with a class and a style is met as its tags around what is met in its content;
the references in the style are resolved. -/
theorem leads_classAndStyle {name : String} (named : IsName name.toList) {cls style : Text}
    (plain : '&' ∉ cls) (classUnquoted : '\x22' ∉ cls) (styleUnquoted : '\x22' ∉ style)
    {inside : Text} {met : List Event}
    (read : Leads (step referent) (.content none) inside (.content none) met) :
    Leads (step referent) (.content none)
      (element name (attributeText "class" cls ++ attributeText "style" style) inside)
      (.content none)
      (elementEvents name [("class", cls), ("style", unescape referent style)] met) := by
  have whole := leads_element named [("class", cls), ("style", style)]
    (proper_classAndStyle classUnquoted styleUnquoted) read
  rw [attributesText_classAndStyle] at whole
  simp only [List.map_cons, List.map_nil, Attribute.ofWritten, unescape_plain plain] at whole
  exact whole

/-- An element with a class is met as its tags around what is met in its content. -/
theorem leads_class {name : String} (named : IsName name.toList) {cls : Text}
    (plain : '&' ∉ cls) (unquoted : '\x22' ∉ cls) {inside : Text} {met : List Event}
    (read : Leads (step referent) (.content none) inside (.content none) met) :
    Leads (step referent) (.content none) (element name (attributeText "class" cls) inside)
      (.content none) (elementEvents name [("class", cls)] met) := by
  have proper : ∀ written ∈ [("class", cls)], Proper written :=
    fun written member => proper_classAndStyle unquoted List.not_mem_nil written
      (List.mem_cons.mpr (.inl (List.mem_singleton.mp member)))
  have whole := leads_element named [("class", cls)] proper read
  rw [attributesText_class] at whole
  simp only [List.map_cons, List.map_nil, Attribute.ofWritten, unescape_plain plain] at whole
  exact whole

/-- A token in the style that a theme has for its class. -/
def tokenText (theme : Theme) (token : Token) : Text :=
  if token.cls = .whitespace then escapeContent token.text
  else
    element "span"
      (attributeText "class" (className token.cls) ++
        attributeText "style" (escapeAttribute (theme.css token.cls)))
      (escapeContent token.text)

theorem renderToken_eq {theme : Theme} (complete : theme.Complete) (token : Token) :
    renderToken theme token = .ok (tokenText theme token) := by
  obtain ⟨style, held⟩ := Option.isSome_iff_exists.mp (complete token.cls)
  have css : theme.css token.cls = declarations style := by simp [Theme.css, held]
  unfold renderToken tokenText
  split
  · rfl
  · rw [Theme.style, held, css]
    rfl

/-- In a complete theme the tokens are written one after the other, each in its style. -/
theorem renderTokens_eq {theme : Theme} (complete : theme.Complete) (tokens : List Token) :
    renderTokens theme tokens = .ok (tokens.flatMap (tokenText theme)) := by
  induction tokens with
  | nil => rfl
  | cons token later inductionHypothesis =>
      rw [renderTokens, renderToken_eq complete, inductionHypothesis]
      rfl

/-- A token is read as it is meant. -/
theorem leads_tokenText (theme : Theme) {token : Token} (refers : Refers referent token.text) :
    Leads (step referent) (.content none) (tokenText theme token) (.content none)
      (tokenEvents theme token) := by
  have inside := leads_escapeContent refers
  unfold tokenText tokenEvents
  split
  · exact inside
  · have span : IsName "span".toList := by decide
    have read := leads_classAndStyle span (ampersand_not_mem_className token.cls)
      (quote_not_mem_className token.cls) (quote_not_mem_escapeAttribute (theme.css token.cls))
      inside
    rwa [unescape_escapeAttribute] at read

/-- The tokens of a complete theme are written and read one after the other. -/
theorem exists_renderTokens_read {theme : Theme} (complete : theme.Complete)
    {tokens : List Token} (refers : ∀ token ∈ tokens, Refers referent token.text) :
    ∃ written, renderTokens theme tokens = .ok written ∧
      Leads (step referent) (.content none) written (.content none)
        (tokens.flatMap (tokenEvents theme)) :=
  ⟨_, renderTokens_eq complete tokens,
    .flatMap fun token member => leads_tokenText theme (refers token member)⟩

end

/-! ## Blocks -/

/-- The declaration of the gutter colour. -/
def gutterCss (colour : Text) : Text :=
  "color:".toList ++ colour

/-- The declarations of a block. -/
def blockCss (theme : Theme) : Text :=
  declarations ⟨theme.foreground, some theme.background⟩

/-- The badge of a block as it is read, with the gutter colour in its style. -/
def headingEvents (gutterColour : Text) (language : Option Language) : List Event :=
  (language.map fun language =>
    elementEvents "div" [("class", "codelex-header".toList), ("style", gutterCss gutterColour)]
      (language.label.map .character)).getD []

/-- The line numbers of a block as they are read, with the gutter colour in their style. -/
def gutterEvents (gutterColour : Text) (numbered : Bool) (count : Nat) : List Event :=
  if numbered then
    elementEvents "pre" [("class", "codelex-gutter".toList), ("style", gutterCss gutterColour)]
      ((lineNumbers count).map .character)
  else []

/-- The code of a block as it is read. -/
def listingEvents (theme : Theme) (tokens : List Token) : List Event :=
  elementEvents "pre" [("class", "codelex-code".toList)]
    (elementEvents "code" [] (tokens.flatMap (tokenEvents theme)))

/-- What a block is read as whose gutter colour is read as the given one. -/
def blockEvents (theme : Theme) (gutterColour : Text) (language : Option Language)
    (numbered : Bool) (tokens : List Token) : List Event :=
  elementEvents "div" [("class", "codelex".toList), ("style", blockCss theme)]
    (headingEvents gutterColour language ++
      elementEvents "div" [("class", "codelex-body".toList)]
        (gutterEvents gutterColour numbered ((Token.source tokens).count '\n' + 1) ++
          listingEvents theme tokens))

/-- Line numbers are digits and line feeds. -/
theorem eq_or_isDigit_of_mem_lineNumbers {count : Nat} {c : Char}
    (member : c ∈ lineNumbers count) : c = '\n' ∨ c.isDigit = true := by
  rcases Text.mem_intercalate member with same | ⟨part, held, inside⟩
  · exact .inl same
  · obtain ⟨index, _, rfl⟩ := List.mem_map.mp held
    exact .inr (Text.isDigit_of_mem_decimal inside)

section

variable {theme : Theme} {language : Option Language} {numbered : Bool} {tokens : List Token}

/-- An element in the gutter colour is read as meant, with the references of the colour
resolved, unless a quote in the colour ends the attribute. -/
theorem leads_gutterColoured {name cls : String} {inside : Text} {met : List Event}
    (named : IsName name.toList) (plain : '&' ∉ cls.toList) (classUnquoted : '\x22' ∉ cls.toList)
    (unquoted : '\x22' ∉ theme.gutter.toList)
    (read : Leads (step codePoint?) (.content none) inside (.content none) met) :
    Leads (step codePoint?) (.content none)
      (element name (attributeText "class" cls.toList ++ gutterStyle theme) inside)
      (.content none)
      (elementEvents name [("class", cls.toList),
        ("style", gutterCss (unescape codePoint? theme.gutter.toList))] met) := by
  have property : '\x22' ∉ "color:".toList ∧ '&' ∉ "color:".toList := by decide
  have styleUnquoted : '\x22' ∉ gutterCss theme.gutter.toList := fun member =>
    (List.mem_append.mp member).elim property.1 unquoted
  have colour : unescape codePoint? (gutterCss theme.gutter.toList) =
      gutterCss (unescape codePoint? theme.gutter.toList) := unescape_append property.2 _
  rw [← colour]
  exact leads_classAndStyle named plain classUnquoted styleUnquoted read

theorem leads_heading (language : Option Language)
    (unquoted : language = none ∨ '\x22' ∉ theme.gutter.toList) :
    Leads (step codePoint?) (.content none) ((language.map (badge theme)).getD []) (.content none)
      (headingEvents (unescape codePoint? theme.gutter.toList) language) := by
  cases language with
  | none => exact .nil _
  | some language =>
      have name : IsName "div".toList := by decide
      have cls : '&' ∉ "codelex-header".toList ∧ '\x22' ∉ "codelex-header".toList := by decide
      exact leads_gutterColoured name cls.1 cls.2 (unquoted.resolve_left (by simp))
        (leads_escapeContent (refers_codePoint? language.label))

theorem leads_gutter (numbered : Bool) (source : Text)
    (unquoted : numbered = false ∨ '\x22' ∉ theme.gutter.toList) :
    Leads (step codePoint?) (.content none) (if numbered then gutter theme source else [])
      (.content none)
      (gutterEvents (unescape codePoint? theme.gutter.toList) numbered
        (source.count '\n' + 1)) := by
  cases numbered with
  | false => exact .nil _
  | true =>
      have name : IsName "pre".toList := by decide
      have cls : '&' ∉ "codelex-gutter".toList ∧ '\x22' ∉ "codelex-gutter".toList := by decide
      have apart : ∀ c, c.isDigit = false → c ≠ '\n' →
          c ∉ lineNumbers (source.count '\n' + 1) := by
        intro c other unbroken member
        rcases eq_or_isDigit_of_mem_lineNumbers member with same | digit
        · exact unbroken same
        · simp [digit] at other
      exact leads_gutterColoured name cls.1 cls.2 (unquoted.resolve_left (by simp))
        (leads_content_of_resolve (apart '<' (by decide) (by decide))
          (resolve_plain (apart '&' (by decide) (by decide))))

theorem leads_listing {code : Text} {tokens : List Token}
    (read : Leads (step codePoint?) (.content none) code (.content none)
      (tokens.flatMap (tokenEvents theme))) :
    Leads (step codePoint?) (.content none)
      (element "pre" (attributeText "class" "codelex-code".toList) (element "code" [] code))
      (.content none) (listingEvents theme tokens) := by
  have names : IsName "pre".toList ∧ IsName "code".toList := by decide
  have cls : '&' ∉ "codelex-code".toList ∧ '\x22' ∉ "codelex-code".toList := by decide
  exact leads_class names.1 cls.1 cls.2
    (leads_element names.2 [] (fun _ member => absurd member List.not_mem_nil) read)

/-- A block in a complete theme is written and read as meant, unless a quote in the gutter
colour ends an attribute. -/
theorem exists_renderBlock_read (complete : theme.Complete) (language : Option Language)
    (numbered : Bool) (tokens : List Token)
    (unquoted : (language = none ∧ numbered = false) ∨ '\x22' ∉ theme.gutter.toList) :
    ∃ written, renderBlock theme language numbered tokens = .ok written ∧
      Leads (step codePoint?) (.content none) written (.content none)
        (blockEvents theme (unescape codePoint? theme.gutter.toList) language numbered
          tokens) := by
  obtain ⟨code, rendered, codeRead⟩ := exists_renderTokens_read complete
    fun token (_ : token ∈ tokens) => refers_codePoint? token.text
  refine ⟨_, by rw [renderBlock, rendered]; rfl, ?_⟩
  have name : IsName "div".toList := by decide
  have body : '&' ∉ "codelex-body".toList ∧ '\x22' ∉ "codelex-body".toList := by decide
  have block : '&' ∉ "codelex".toList ∧ '\x22' ∉ "codelex".toList := by decide
  have heading := leads_heading language (unquoted.imp And.left id)
  have numbers := leads_gutter numbered (Token.source tokens) (unquoted.imp And.right id)
  have inside := heading.append
    (leads_class name body.1 body.2 (numbers.append (leads_listing codeRead)))
  have whole := leads_classAndStyle name block.1 block.2
    (quote_not_mem_escapeAttribute (blockCss theme)) inside
  rw [unescape_escapeAttribute] at whole
  exact whole

end

end Markup

end Highlighter
