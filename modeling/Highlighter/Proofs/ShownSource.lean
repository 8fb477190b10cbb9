import Highlighter.Proofs.RenderedMarkup
import Highlighter.Text.LineEnds
import Highlighter.Token.Builder

/-!
# What a page shows

A browser reads a page by the HTML standard.  It takes the tags away, resolves the references
and shows the rest.  The reader of this file does so for everything between the tags of a page
in which there are no comments and no declarations.  A number that refers to a control between
U+0080 and U+009F is read as the character that windows-1252 has in its place; which names there
are is left open, up to the names of the marks.

So rendered tokens show their source with these controls replaced, and they show the source as
it is exactly if none of them is in it.
-/

namespace Highlighter.Markup.Page

open Reading (run Leads)

/-! ## The reader -/

/-- The numbers that do not refer to their own character, and the characters they refer to. -/
def replacements : List (Nat × Char) :=
  [(0x80, '\u20AC'), (0x82, '\u201A'), (0x83, '\u0192'), (0x84, '\u201E'), (0x85, '\u2026'),
    (0x86, '\u2020'), (0x87, '\u2021'), (0x88, '\u02C6'), (0x89, '\u2030'), (0x8A, '\u0160'),
    (0x8B, '\u2039'), (0x8C, '\u0152'), (0x8E, '\u017D'), (0x91, '\u2018'), (0x92, '\u2019'),
    (0x93, '\u201C'), (0x94, '\u201D'), (0x95, '\u2022'), (0x96, '\u2013'), (0x97, '\u2014'),
    (0x98, '\u02DC'), (0x99, '\u2122'), (0x9A, '\u0161'), (0x9B, '\u203A'), (0x9C, '\u0153'),
    (0x9E, '\u017E'), (0x9F, '\u0178')]

/-- The character that a number refers to.  Where there is none it is the mark for that. -/
def referent (number : Nat) : Char :=
  match replacements.lookup number with
  | some replacement => replacement
  | none => if number = 0 then '\uFFFD' else (codePoint? number).getD '\uFFFD'

/-- Where a reader is in a tag. -/
inductive Place where
  | name
  /-- Behind a blank, a slash or a value. -/
  | beforeAttribute
  | attributeName
  /-- Behind an attribute that has no value yet. -/
  | afterAttribute
  | beforeValue
  | value (quote : Char)
  | bareValue
  | afterValue
  deriving DecidableEq, Repr

/-- Where a reader is in a page. -/
inductive Stage where
  /-- Between tags and references. -/
  | data
  /-- Behind an ampersand. -/
  | ampersand
  /-- In the name of a reference. -/
  | name (letters : Text)
  /-- Behind an ampersand and a number sign. -/
  | numberSign
  /-- Behind the letter in front of digits of base sixteen. -/
  | baseLetter (letter : Char)
  | decimal (value : Nat)
  | hexadecimal (value : Nat)
  /-- Behind an opening angle bracket. -/
  | bracket
  /-- Behind an opening angle bracket and a slash. -/
  | slash
  | tag (place : Place)
  deriving DecidableEq, Repr

/-- Read a character between tags and references.  The null character is not shown. -/
def dataStep (c : Char) : Stage × Text :=
  if c = '&' then (.ampersand, [])
  else if c = '<' then (.bracket, [])
  else if c = '\x00' then (.data, [])
  else (.data, [c])

/-- Show a text, and read the character behind it. -/
def showThen (shown : Text) (c : Char) : Stage × Text :=
  let (next, met) := dataStep c
  (next, shown ++ met)

/-- Read a character behind digits of a number. -/
def numberStep (stageOf : Nat → Stage) (base value : Nat) (digit? : Option Nat) (c : Char) :
    Stage × Text :=
  match digit? with
  | some digit => (stageOf (value * base + digit), [])
  | none => if c = ';' then (.data, [referent value]) else showThen [referent value] c

/-- The value of a digit of base ten. -/
def decimalValue? (c : Char) : Option Nat :=
  (hexValue? c).filter (· < 10)

/-- A blank in a tag. -/
def isTagBlank (c : Char) : Bool :=
  c == ' ' || c == '\n' || c == '\t' || c == '\x0c'

/-- Read a character in a tag where an attribute can begin. -/
def beforeAttributeStep (c : Char) : Stage :=
  if c = '>' then .data
  else if isTagBlank c || c = '/' then .tag .beforeAttribute
  else .tag .attributeName

/-- Read a character in a tag behind the name of an attribute. -/
def afterAttributeStep (c : Char) : Stage :=
  if c = '=' then .tag .beforeValue
  else if isTagBlank c then .tag .afterAttribute
  else beforeAttributeStep c

/-- Read a character in a tag. -/
def tagStep (place : Place) (c : Char) : Stage :=
  match place with
  | .name => if c = '>' || isTagBlank c || c = '/' then beforeAttributeStep c else .tag .name
  | .beforeAttribute | .afterValue => beforeAttributeStep c
  | .attributeName | .afterAttribute => afterAttributeStep c
  | .beforeValue =>
      if c = '>' then .data
      else if isTagBlank c then .tag .beforeValue
      else if c = '\x22' || c = '\x27' then .tag (.value c)
      else .tag .bareValue
  | .value quote => if c = quote then .tag .afterValue else .tag (.value quote)
  | .bareValue =>
      if c = '>' then .data
      else if isTagBlank c then .tag .beforeAttribute
      else .tag .bareValue

section

variable (names : Text → Option Text)

/-- What stands for an ampersand and the letters behind it: what the longest name at their start
stands for, and the others as they are. -/
def named (letters : Text) : Text :=
  ((List.range (letters.length + 1)).reverse.findSome? fun count =>
    (names (letters.take count)).map (· ++ letters.drop count)).getD ('&' :: letters)

/-- Read one character: the stage behind it, and what is shown with it. -/
def step (stage : Stage) (c : Char) : Option (Stage × Text) :=
  match stage with
  | .data => some (dataStep c)
  | .ampersand =>
      if c = '#' then some (.numberSign, [])
      else if c.isAlphanum then some (.name [c], [])
      else some (showThen ['&'] c)
  | .name letters =>
      if c.isAlphanum then some (.name (letters ++ [c]), [])
      else if c = ';' then some (.data, named names (letters ++ [c]))
      else some (showThen (named names letters) c)
  | .numberSign =>
      if c = 'x' || c = 'X' then some (.baseLetter c, [])
      else
        match decimalValue? c with
        | some digit => some (.decimal digit, [])
        | none => some (showThen ['&', '#'] c)
  | .baseLetter letter =>
      match hexValue? c with
      | some digit => some (.hexadecimal digit, [])
      | none => some (showThen ['&', '#', letter] c)
  | .decimal value => some (numberStep .decimal 10 value (decimalValue? c) c)
  | .hexadecimal value => some (numberStep .hexadecimal 16 value (hexValue? c) c)
  | .bracket =>
      if c = '/' then some (.slash, [])
      else if c.isAlpha then some (.tag .name, [])
      else if c = '!' || c = '?' then none
      else some (showThen ['<'] c)
  | .slash =>
      if c = '>' then some (.data, [])
      else if c.isAlpha then some (.tag .name, [])
      else none
  | .tag place => some (tagStep place c, [])

/-- What is shown at the end of a page. -/
def held : Stage → Text
  | .data | .tag _ => []
  | .ampersand => ['&']
  | .name letters => named names letters
  | .numberSign => ['&', '#']
  | .baseLetter letter => ['&', '#', letter]
  | .decimal value | .hexadecimal value => [referent value]
  | .bracket => ['<']
  | .slash => ['<', '/']

/-- What a page shows.  A page with a comment or a declaration cannot be read. -/
def shown? (page : Text) : Option Text :=
  (run (step names) .data (Text.lineEndsAsLineFeeds page)).map fun (last, met) =>
    met ++ held names last

/-- The marks have their names. -/
def NamesMarks : Prop :=
  ∀ entry ∈ namedReferences, names (entry.1 ++ [';']) = some [entry.2]

end

/-- The names of the marks, and no others. -/
def markNames (written : Text) : Option Text :=
  (namedReferences.find? fun entry => entry.1 ++ [';'] == written).map fun entry => [entry.2]

theorem namesMarks_markNames : NamesMarks markNames := by
  unfold NamesMarks
  decide

example : shown? markNames "<b title='a > b'>&#x80 &#67;&amp;lt;</b>&x; < 1".toList =
    some "€ C&lt;&x; < 1".toList := by decide

/-! ## What numbers refer to -/

/-- A number refers to its own character unless it has a replacement. -/
theorem referent_toNat_eq_iff {c : Char} (present : c ≠ '\x00') :
    referent c.toNat = c ↔ c.toNat ∉ replacements.map Prod.fst := by
  have positive : c.toNat ≠ 0 := fun zero => present (Char.toNat_inj.mp zero)
  cases found : replacements.lookup c.toNat with
  | none =>
      have kept : referent c.toNat = c := by simp [referent, found, positive]
      have absent := List.lookup_eq_none_iff.mp found
      refine iff_of_true kept fun member => ?_
      obtain ⟨entry, held, same⟩ := List.mem_map.mp member
      simpa [same] using absent entry held
  | some replacement =>
      have other : ∀ entry ∈ replacements, entry.2.toNat ≠ entry.1 := by decide
      obtain ⟨before, after, split, _⟩ := List.lookup_eq_some_iff.mp found
      have member : (c.toNat, replacement) ∈ replacements := by simp [split]
      refine iff_of_false (fun same => ?_) fun absent => absent (List.mem_map_of_mem member)
      have replaced : referent c.toNat = replacement := by rw [referent, found]
      exact other _ member (congrArg Char.toNat (replaced.symm.trans same))

/-- The characters of ASCII have no replacements. -/
theorem referent_toNat_of_le {c : Char} (present : c ≠ '\x00') (ascii : c.toNat ≤ 0x7F) :
    referent c.toNat = c := by
  have beyond : ∀ number ∈ replacements.map Prod.fst, 0x7F < number := by decide
  exact (referent_toNat_eq_iff present).mpr fun member => absurd (beyond _ member) (by omega)

/-! ## Escaped texts -/

section

variable {names : Text → Option Text}

theorem named_eq {letters meant : Text} (found : names letters = some meant) :
    named names letters = meant := by
  simp [named, List.range_succ, found]

theorem leads_hexadecimal {digits : Text} {front value : Nat}
    (read : digits.foldlM (fun number c => (hexValue? c).map (number * 16 + ·)) front =
      some value) :
    Leads (step names) (.hexadecimal front) digits (.hexadecimal value) [] := by
  induction digits generalizing front with
  | nil =>
      obtain rfl := Option.some.inj read
      exact .nil _
  | cons c rest inductionHypothesis =>
      rw [List.foldlM_cons] at read
      cases digit : hexValue? c with
      | none => simp [digit] at read
      | some d =>
          have first : Leads (step names) (.hexadecimal front) [c] (.hexadecimal (front * 16 + d))
              [] := .single (by simp [step, numberStep, digit])
          exact first.append (inductionHypothesis (by simpa [digit] using read))

/-- A reference to a number is read as the character that the number refers to. -/
theorem leads_number (value : Nat) :
    Leads (step names) .data ("&#x".toList ++ Text.capitalHexadecimal value ++ [';']) .data
      [referent value] := by
  have ampersand : Leads (step names) .data ['&'] .ampersand [] := .single rfl
  have numberSign : Leads (step names) .ampersand ['#'] .numberSign [] := .single rfl
  have letter : Leads (step names) .numberSign ['x'] (.baseLetter 'x') [] := .single rfl
  have digits : Leads (step names) (.baseLetter 'x') (Text.capitalHexadecimal value)
      (.hexadecimal value) [] := by
    have read := Text.hexNumber?_capitalHexadecimal value
    cases written : Text.capitalHexadecimal value with
    | nil => exact absurd written (Text.capitalHexadecimal_ne_nil value)
    | cons c rest =>
        rw [written, Text.hexNumber?, List.foldlM_cons] at read
        cases digit : hexValue? c with
        | none => simp [digit] at read
        | some d =>
            have first : Leads (step names) (.baseLetter 'x') [c] (.hexadecimal d) [] :=
              .single (by simp [step, digit])
            exact first.append (leads_hexadecimal (by simpa [digit] using read))
  have ending : Leads (step names) (.hexadecimal value) [';'] .data [referent value] :=
    .single rfl
  have whole := (((ampersand.append numberSign).append letter).append digits).append ending
  simpa using whole

/-- A reference to a mark by its name is read as the mark. -/
theorem leads_named (marks : NamesMarks names) {name : Text} {mark : Char}
    (member : (name, mark) ∈ namedReferences) :
    Leads (step names) .data ('&' :: name ++ [';']) .data [mark] := by
  have each : ∀ entry ∈ namedReferences,
      entry.1 ≠ [] ∧ entry.1.all Char.isAlphanum = true ∧ '#' ∉ entry.1 := by decide
  obtain ⟨filled, letters, unnumbered⟩ := each _ member
  cases name with
  | nil => contradiction
  | cons c rest =>
      rw [List.all_cons, Bool.and_eq_true, List.all_eq_true] at letters
      rw [List.mem_cons, not_or] at unnumbered
      have ampersand : Leads (step names) .data ['&'] .ampersand [] := .single rfl
      have first : Leads (step names) .ampersand [c] (.name [c]) [] :=
        .single (by simp [step, letters.1, Ne.symm unnumbered.1])
      have others : Leads (step names) (.name [c]) rest (.name ([c] ++ rest)) [] :=
        Leads.taken Stage.name (fun front d inside => by simp [step, letters.2 d inside]) [c]
      have meant : named names ([c] ++ rest ++ [';']) = [mark] := named_eq (marks _ member)
      have ending : Leads (step names) (.name ([c] ++ rest)) [';'] .data [mark] :=
        .single (by rw [← meant]; rfl)
      exact ((ampersand.append first).append others).append ending

/-- A character is read from how it is written in the content of an element. -/
theorem leads_escapeContentChar (marks : NamesMarks names) {c : Char} (present : c ≠ '\x00') :
    Leads (step names) .data (escapeContentChar c) .data [referent c.toNat] := by
  have mark (name : Text) (member : (name, c) ∈ namedReferences) :
      Leads (step names) .data ('&' :: name ++ [';']) .data [referent c.toNat] := by
    have each : ∀ entry ∈ namedReferences, entry.2.toNat ≤ 0x7F := by decide
    rw [referent_toNat_of_le present (each _ member)]
    exact leads_named marks member
  unfold escapeContentChar
  split_ifs with ampersand less greater beyond
  · exact mark "amp".toList (by simp [namedReferences, ampersand])
  · exact mark "lt".toList (by simp [namedReferences, less])
  · exact mark "gt".toList (by simp [namedReferences, greater])
  · exact leads_number c.toNat
  · rw [referent_toNat_of_le present (Nat.not_lt.mp beyond)]
    exact .single (by simp [step, dataStep, ampersand, less, present])

/-- An escaped content is read as the text, each character as its number refers. -/
theorem leads_escapeContent (marks : NamesMarks names) {text : Text} (present : '\x00' ∉ text) :
    Leads (step names) .data (escapeContent text) .data (text.map fun c => referent c.toNat) := by
  have each : ∀ c ∈ text, Leads (step names) .data (escapeContentChar c) .data
      [referent c.toNat] := by
    intro c member
    exact leads_escapeContentChar marks fun same => present (same ▸ member)
  have read := Leads.flatMap each
  rwa [← List.map_eq_flatMap] at read

/-! ## Tags -/

/-- A character of a name ends nothing in a tag. -/
theorem tagStep_of_isNameChar {c : Char} (letter : isNameChar c = true) :
    tagStep .beforeAttribute c = .tag .attributeName ∧
      tagStep .attributeName c = .tag .attributeName ∧ tagStep .name c = .tag .name := by
  have unlettered : ['>', '=', '/', ' ', '\n', '\t', '\x0c'].all (!isNameChar ·) = true := by decide
  have marks : ∀ d ∈ ['>', '=', '/', ' ', '\n', '\t', '\x0c'], c ≠ d := by
    rintro d member rfl
    simpa [letter] using List.all_eq_true.mp unlettered c member
  simp only [List.forall_mem_cons] at marks
  obtain ⟨greater, equals, slash, space, feed, tab, page, -⟩ := marks
  simp [tagStep, beforeAttributeStep, afterAttributeStep, isTagBlank, greater, equals, slash, space,
    feed, tab, page]

/-- Nothing is shown of an attribute. -/
theorem leads_attribute {stage : Stage}
    (begins : step names stage ' ' = some (.tag .beforeAttribute, [])) {name : String} {value : Text}
    (named : IsName name.toList) (unquoted : '\x22' ∉ value) :
    Leads (step names) stage (attributeText name value) (.tag .afterValue) [] := by
  have letters : Leads (step names) (.tag .beforeAttribute) name.toList (.tag .attributeName) [] := by
    refine .entered named.1 (fun c member => ?_) fun c member => ?_
    · simp only [step, tagStep_of_isNameChar (named.2 c member)]
    · simp only [step, tagStep_of_isNameChar (named.2 c member)]
  have equals : Leads (step names) (.tag .attributeName) ['='] (.tag .beforeValue) [] :=
    .single rfl
  have opening : Leads (step names) (.tag .beforeValue) ['\x22'] (.tag (.value '\x22')) [] :=
    .single rfl
  have inside : Leads (step names) (.tag (.value '\x22')) value (.tag (.value '\x22')) [] := by
    refine .passed fun c member => ?_
    have other : c ≠ '\x22' := fun same => unquoted (same ▸ member)
    simp [step, tagStep, other]
  have closing : Leads (step names) (.tag (.value '\x22')) ['\x22'] (.tag .afterValue) [] :=
    .single rfl
  have written := ((Leads.single begins).append letters).append (equals.append opening)
  simpa [attributeText] using (written.append inside).append closing

/-- Nothing is shown of the attributes of a tag and of its end. -/
theorem leads_tagEnd {stage : Stage}
    (begins : step names stage ' ' = some (.tag .beforeAttribute, []))
    (ends : step names stage '>' = some (.data, [])) {attributes : List (String × Text)}
    (proper : ∀ written ∈ attributes, Proper written) :
    Leads (step names) stage (attributesText attributes ++ ['>']) .data [] := by
  induction attributes generalizing stage with
  | nil => exact .single ends
  | cons written later inductionHypothesis =>
      rw [List.forall_mem_cons] at proper
      have first := leads_attribute begins proper.1.1 proper.1.2
      have others := @inductionHypothesis (.tag .afterValue) rfl rfl proper.2
      simpa [attributesText] using first.append others

/-- Nothing is shown of the tags around a content. -/
theorem leads_element {name : String} {attributes : List (String × Text)}
    (filled : name.toList ≠ []) (letters : ∀ c ∈ name.toList, c.isAlpha = true)
    (proper : ∀ written ∈ attributes, Proper written)
    {inside shown : Text} (read : Leads (step names) .data inside .data shown) :
    Leads (step names) .data (element name (attributesText attributes) inside) .data shown := by
  have passes : ∀ c ∈ name.toList, step names (.tag .name) c = some (.tag .name, []) := by
    intro c member
    have letter : isNameChar c = true := by simp [isNameChar, letters c member]
    simp only [step, tagStep_of_isNameChar letter]
  have opened : Leads (step names) .bracket name.toList (.tag .name) [] := by
    refine .entered filled (fun c member => ?_) passes
    have other : c ≠ '/' := fun same => absurd (letters c member) (by rw [same]; decide)
    simp [step, letters c member, other]
  have closed : Leads (step names) .slash name.toList (.tag .name) [] := by
    refine .entered filled (fun c member => ?_) passes
    have other : c ≠ '>' := fun same => absurd (letters c member) (by rw [same]; decide)
    simp [step, letters c member, other]
  have bracket : Leads (step names) .data ['<'] .bracket [] := .single rfl
  have slash : Leads (step names) .bracket ['/'] .slash [] := .single rfl
  have ending : Leads (step names) (.tag .name) ['>'] .data [] := .single rfl
  have front := (bracket.append opened).append (leads_tagEnd rfl rfl proper)
  have back := ((bracket.append slash).append closed).append ending
  simpa [element] using (front.append read).append back

end

/-! ## Line ends -/

/-- A text without carriage returns is not changed where a page is read. -/
theorem lineEndsAsLineFeeds_eq {text : Text} (unreturned : '\r' ∉ text) :
    Text.lineEndsAsLineFeeds text = text := by
  have pairs : Text.pairsAsLineFeeds text = text := by
    fun_induction Text.pairsAsLineFeeds text with
    | case1 => rfl
    | case2 => rfl
    | case3 c d rest pair => simp [pair.1] at unreturned
    | case4 c d rest pair inductionHypothesis =>
        rw [List.mem_cons, not_or] at unreturned
        rw [inductionHypothesis unreturned.2]
  rw [Text.lineEndsAsLineFeeds, pairs, List.map_congr_left (g := id), List.map_id]
  intro c member
  have other : c ≠ '\r' := fun same => unreturned (same ▸ member)
  rw [if_neg other, id]

/-- A carriage return is written only for itself. -/
theorem eq_of_return_mem_escaped {mark c : Char} {written : Text} (escaped : Escaped mark c written)
    (member : '\r' ∈ written) : c = '\r' := by
  cases escaped with
  | named name held =>
      have each : ∀ entry ∈ namedReferences, '\r' ∉ '&' :: entry.1 ++ [';'] := by decide
      exact absurd member (each _ held)
  | numbered content beyond =>
      have digit : '\r' ∈ Text.capitalHexadecimal c.toNat := by simpa using member
      exact absurd (Text.isSome_hexValue?_of_mem_capitalHexadecimal digit) (by decide)
  | shown plain other => exact (List.mem_singleton.mp member).symm

theorem return_not_mem_escapeContent {text : Text} (unreturned : '\r' ∉ text) :
    '\r' ∉ escapeContent text := by
  intro member
  obtain ⟨c, held, written⟩ := List.mem_flatMap.mp member
  exact unreturned (eq_of_return_mem_escaped (escaped_escapeContentChar c) written ▸ held)

theorem return_not_mem_escapeAttribute {text : Text} (unreturned : '\r' ∉ text) :
    '\r' ∉ escapeAttribute text := by
  intro member
  obtain ⟨c, held, written⟩ := List.mem_flatMap.mp member
  exact unreturned (eq_of_return_mem_escaped (escaped_escapeAttributeChar c) written ▸ held)

/-- No colour of a theme holds a carriage return. -/
def Unreturned (theme : Theme) : Prop :=
  ∀ cls, '\r' ∉ theme.css cls

theorem unreturned_of_mem_builtIn {theme : Theme} (member : theme ∈ Theme.builtIn) :
    Unreturned theme := by
  intro cls
  simp only [Theme.builtIn, List.mem_cons, List.not_mem_nil, or_false] at member
  rcases member with rfl | rfl <;> cases cls <;> decide

theorem return_not_mem_tokenText {theme : Theme} (coloured : Unreturned theme) {token : Token}
    (unreturned : '\r' ∉ token.text) : '\r' ∉ tokenText theme token := by
  have inside := return_not_mem_escapeContent unreturned
  unfold tokenText
  split
  · exact inside
  · have named : '\r' ∉ className token.cls := by cases token.cls <;> decide
    have css := return_not_mem_escapeAttribute (coloured token.cls)
    simp [element, attributeText, named, css, inside]

/-! ## Tokens -/

section

variable {names : Text → Option Text} {theme : Theme}

/-- A token shows its text, each character as its number refers. -/
theorem leads_tokenText (marks : NamesMarks names) (theme : Theme) {token : Token}
    (present : '\x00' ∉ token.text) :
    Leads (step names) .data (tokenText theme token) .data
      (token.text.map fun c => referent c.toNat) := by
  have inside := leads_escapeContent marks present
  unfold tokenText
  split
  · exact inside
  · have span : IsName "span".toList := by decide
    have letters : "span".toList.all Char.isAlpha = true := by decide
    have proper := proper_classAndStyle (quote_not_mem_className token.cls)
      (quote_not_mem_escapeAttribute (theme.css token.cls))
    have read := leads_element span.1 (List.all_eq_true.mp letters) proper inside
    rwa [attributesText_classAndStyle] at read

/-- A page of rendered tokens without null characters and carriage returns shows their source,
each character as its number refers. -/
theorem exists_shown (marks : NamesMarks names) (member : theme ∈ Theme.builtIn)
    {tokens : List Token} (present : ∀ token ∈ tokens, '\x00' ∉ token.text)
    (unreturned : ∀ token ∈ tokens, '\r' ∉ token.text) :
    ∃ code, renderTokens theme tokens = .ok code ∧
      shown? names code = some ((Token.source tokens).map fun c => referent c.toNat) := by
  refine ⟨_, renderTokens_eq (Theme.complete_of_mem_builtIn member) tokens, ?_⟩
  have unbroken : '\r' ∉ tokens.flatMap (tokenText theme) := by
    intro broken
    obtain ⟨token, held, inside⟩ := List.mem_flatMap.mp broken
    exact return_not_mem_tokenText (unreturned_of_mem_builtIn member) (unreturned token held) inside
  have read : Leads (step names) .data (tokens.flatMap (tokenText theme)) .data
      (tokens.flatMap fun token => token.text.map fun c => referent c.toNat) :=
    .flatMap fun token held => leads_tokenText marks theme (present token held)
  unfold Leads at read
  rw [shown?, lineEndsAsLineFeeds_eq unbroken, read, Token.source, List.map_flatMap]
  exact congrArg some (List.append_nil _)

/-- In a built-in theme rendered tokens without null characters and carriage returns show their
source with some controls replaced, and they show the source itself exactly if none of these
controls is in it. -/
theorem source_shown_iff (marks : NamesMarks names) (member : theme ∈ Theme.builtIn)
    {tokens : List Token} (present : ∀ token ∈ tokens, '\x00' ∉ token.text)
    (unreturned : ∀ token ∈ tokens, '\r' ∉ token.text) :
    ∃ code, renderTokens theme tokens = .ok code ∧
      shown? names code = some ((Token.source tokens).map fun c => referent c.toNat) ∧
      (shown? names code = some (Token.source tokens) ↔
        ∀ c ∈ Token.source tokens, c.toNat ∉ replacements.map Prod.fst) := by
  obtain ⟨code, rendered, shown⟩ := exists_shown marks member present unreturned
  refine ⟨code, rendered, shown, ?_⟩
  have itself := List.map_inj_left (l := Token.source tokens) (f := fun c => referent c.toNat)
    (g := id)
  rw [List.map_id] at itself
  rw [shown, Option.some_inj, itself]
  refine forall₂_congr fun c held => ?_
  obtain ⟨token, listed, inside⟩ := List.mem_flatMap.mp held
  exact referent_toNat_eq_iff fun same => present token listed (same ▸ inside)

end

/-- A text that looks like a reference is shown as it is, and so is an accented letter. -/
theorem source_shown_of_reference :
    ∃ code,
      renderTokens Theme.monokai (Token.layout true [⟨.string, "'&#x80;é'".toList⟩]) = .ok code ∧
        shown? markNames code = some "'&#x80;é'".toList := by
  have builtIn : Theme.monokai ∈ Theme.builtIn := by simp [Theme.builtIn]
  have plain : ∀ token ∈ Token.layout true [⟨.string, "'&#x80;é'".toList⟩],
      '\x00' ∉ token.text ∧ '\r' ∉ token.text := by decide
  obtain ⟨code, rendered, _, same⟩ := source_shown_iff namesMarks_markNames builtIn
    (fun token held => (plain token held).1) fun token held => (plain token held).2
  have kept : ("'&#x80;é'".toList.all fun c =>
      !(replacements.map Prod.fst).contains c.toNat) = true := by decide
  exact ⟨code, rendered, same.mpr fun c held => by simpa using List.all_eq_true.mp kept c held⟩

/-- A control beyond ASCII is shown as another character. -/
theorem control_shown_replaced :
    ∃ code, renderTokens Theme.monokai (Token.layout true [⟨.identifier, ['\x80']⟩]) = .ok code ∧
      Token.source (Token.layout true [⟨.identifier, ['\x80']⟩]) = ['\x80'] ∧
      shown? markNames code = some ['€'] := by
  have builtIn : Theme.monokai ∈ Theme.builtIn := by simp [Theme.builtIn]
  have plain : ∀ token ∈ Token.layout true [⟨.identifier, ['\x80']⟩],
      '\x00' ∉ token.text ∧ '\r' ∉ token.text := by decide
  obtain ⟨code, rendered, shown⟩ := exists_shown namesMarks_markNames builtIn
    (fun token held => (plain token held).1) fun token held => (plain token held).2
  exact ⟨code, rendered, rfl, shown⟩

end Highlighter.Markup.Page
