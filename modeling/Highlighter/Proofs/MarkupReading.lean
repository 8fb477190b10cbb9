import Highlighter.Markup
import Highlighter.Proofs.Numerals
import Highlighter.Proofs.Reading

/-!
# Reading markup

A reader of markup goes through a text character by character.  It meets opening tags with
their attributes, closing tags, and the characters between them.  A character may be written
as a reference, in the content of an element and in the value of an attribute; which character
a number refers to is left open here, since readers differ in it.

`step` is one character and `run` is a text.  What is written one after the other is read one
after the other, so each way to write markup has one lemma that tells where it leads the
reader and what the reader meets on it.
-/

namespace Highlighter.Markup

open Reading (run Leads)

/-- The references that have a name. -/
def namedReferences : List (Text × Char) :=
  [("amp".toList, '&'), ("lt".toList, '<'), ("gt".toList, '>'), ("quot".toList, '\x22')]

/-- An attribute with its value as it is meant. -/
structure Attribute where
  name : Text
  value : Text
  deriving DecidableEq, Repr

/-- What a reader meets in markup. -/
inductive Event where
  | opening (name : Text) (attributes : List Attribute)
  | closing (name : Text)
  | character (c : Char)
  deriving DecidableEq, Repr

/-- Where a reader is in markup. -/
inductive Stage where
  /-- Between tags, and inside the reference of which a part is read, if any. -/
  | content (pending : Option Text)
  /-- Behind the opening angle bracket of a tag. -/
  | bracket
  | closingName (name : Text)
  | openingName (name : Text)
  | attributeName (element : Text) (attributes : List Attribute) (name : Text)
  /-- Behind the equals sign of an attribute. -/
  | equalsSign (element : Text) (attributes : List Attribute) (name : Text)
  | value (element : Text) (attributes : List Attribute) (name written : Text)
  /-- Behind the closing quote of a value. -/
  | afterValue (element : Text) (attributes : List Attribute)
  deriving DecidableEq, Repr

/-- A character of the name of an element or of an attribute. -/
def isNameChar (c : Char) : Bool :=
  c.isAlpha || c == '-'

/-- What stands for itself if the reference that is pending turns out to be none. -/
def heldBack : Option Text → Text
  | none => []
  | some name => '&' :: name

section

variable (referent : Nat → Option Char)

/-! ## References -/

/-- The character that a reference stands for, by what it has between the ampersand and the
semicolon. -/
def referenced? (name : Text) : Option Char :=
  match name with
  | '#' :: 'x' :: digits =>
      if digits.isEmpty then none else (Text.hexNumber? digits).bind referent
  | _ => namedReferences.lookup name

/-- Read one character of a text with references: what is pending behind it, and the
characters that are certain with it.  What is no reference stands for itself. -/
def resolveStep (pending : Option Text) (c : Char) : Option Text × Text :=
  match pending with
  | none => if c = '&' then (some [], []) else (none, [c])
  | some name =>
      if c = ';' then
        match referenced? referent name with
        | some meant => (none, [meant])
        | none => (none, '&' :: name ++ [';'])
      else if c = '&' then (some [], '&' :: name)
      else (some (name ++ [c]), [])

/-- Read a text with references. -/
def resolve : Option Text → Text → Option Text × Text
  | pending, [] => (pending, [])
  | pending, c :: rest =>
      let (next, certain) := resolveStep referent pending c
      let (last, later) := resolve next rest
      (last, certain ++ later)

/-- A text with its references resolved. -/
def unescape (text : Text) : Text :=
  let (pending, certain) := resolve referent none text
  certain ++ heldBack pending

/-! ## Tags -/

/-- Read the character behind the name of an element or behind an attribute. -/
def tagStep (element : Text) (attributes : List Attribute) (c : Char) :
    Option (Stage × List Event) :=
  if c = '>' then some (.content none, [.opening element attributes])
  else if c = ' ' then some (.attributeName element attributes [], [])
  else none

/-- Read one character: the stage behind it, and what is met with it.  A tag that is not well
formed cannot be read. -/
def step (stage : Stage) (c : Char) : Option (Stage × List Event) :=
  match stage with
  | .content pending =>
      if c = '<' then some (.bracket, (heldBack pending).map .character)
      else
        let (next, certain) := resolveStep referent pending c
        some (.content next, certain.map .character)
  | .bracket =>
      if c = '/' then some (.closingName [], [])
      else if isNameChar c then some (.openingName [c], [])
      else none
  | .closingName name =>
      if isNameChar c then some (.closingName (name ++ [c]), [])
      else if c = '>' ∧ name ≠ [] then some (.content none, [.closing name])
      else none
  | .openingName name =>
      if isNameChar c then some (.openingName (name ++ [c]), []) else tagStep name [] c
  | .attributeName element attributes name =>
      if isNameChar c then some (.attributeName element attributes (name ++ [c]), [])
      else if c = '=' ∧ name ≠ [] then some (.equalsSign element attributes name, [])
      else none
  | .equalsSign element attributes name =>
      if c = '\x22' then some (.value element attributes name [], []) else none
  | .value element attributes name written =>
      if c = '\x22' then
        some (.afterValue element (attributes ++ [⟨name, unescape referent written⟩]), [])
      else some (.value element attributes name (written ++ [c]), [])
  | .afterValue element attributes => tagStep element attributes c

/-- What a reader meets in markup. -/
def events? (text : Text) : Option (List Event) :=
  match run (step referent) (.content none) text with
  | some (.content pending, met) => some (met ++ (heldBack pending).map .character)
  | _ => none

end

/-! ## References are resolved one after the other -/

section

variable {referent : Nat → Option Char}

theorem resolve_append (pending : Option Text) (first second : Text) :
    resolve referent pending (first ++ second) =
      ((resolve referent (resolve referent pending first).1 second).1,
        (resolve referent pending first).2 ++
          (resolve referent (resolve referent pending first).1 second).2) := by
  induction first generalizing pending with
  | nil => rfl
  | cons c rest inductionHypothesis => simp [resolve, inductionHypothesis, List.append_assoc]

/-- A text that writes its characters one by one, each in its own way, is read as these. -/
theorem resolve_flatMap {written : Char → Text} {text : Text}
    (resolves : ∀ c ∈ text, resolve referent none (written c) = (none, [c])) :
    resolve referent none (text.flatMap written) = (none, text) := by
  induction text with
  | nil => rfl
  | cons c rest inductionHypothesis =>
      rw [List.forall_mem_cons] at resolves
      rw [List.flatMap_cons, resolve_append, resolves.1, inductionHypothesis resolves.2]
      rfl

/-- A name goes on being pending. -/
theorem resolve_pending (name : Text) {text : Text} (inside : ∀ c ∈ text, c ≠ ';' ∧ c ≠ '&') :
    resolve referent (some name) text = (some (name ++ text), []) := by
  induction text generalizing name with
  | nil => simp [resolve]
  | cons c rest inductionHypothesis =>
      rw [List.forall_mem_cons] at inside
      have goes : resolveStep referent (some name) c = (some (name ++ [c]), []) := by
        simp [resolveStep, inside.1.1, inside.1.2]
      simp [resolve, goes, inductionHypothesis _ inside.2]

/-- A reference is read as what it stands for. -/
theorem resolve_reference {name : Text} {meant : Char} (inside : ∀ c ∈ name, c ≠ ';' ∧ c ≠ '&')
    (found : referenced? referent name = some meant) :
    resolve referent none ('&' :: name ++ [';']) = (none, [meant]) := by
  change resolve referent (some []) (name ++ [';']) = (none, [meant])
  rw [resolve_append, resolve_pending [] inside]
  simp [resolve, resolveStep, found]

/-- A text without ampersands stands for itself. -/
theorem resolve_plain {text : Text} (plain : '&' ∉ text) :
    resolve referent none text = (none, text) := by
  have each : ∀ c ∈ text, resolve referent none [c] = (none, [c]) := by
    intro c member
    have other : c ≠ '&' := fun same => plain (same ▸ member)
    simp [resolve, resolveStep, other]
  simpa [List.flatMap_singleton'] using resolve_flatMap each

theorem unescape_plain {text : Text} (plain : '&' ∉ text) : unescape referent text = text := by
  simp [unescape, resolve_plain plain, heldBack]

/-- A text in front of which there is no ampersand does not change how the rest is read. -/
theorem unescape_append {first : Text} (plain : '&' ∉ first) (second : Text) :
    unescape referent (first ++ second) = first ++ unescape referent second := by
  simp [unescape, resolve_append, resolve_plain plain]

/-- One character makes what is read at most one character longer. -/
theorem length_resolveStep_le (referent : Nat → Option Char) (pending : Option Text) (c : Char) :
    (resolveStep referent pending c).2.length +
        (heldBack (resolveStep referent pending c).1).length ≤ (heldBack pending).length + 1 := by
  cases pending with
  | none => by_cases started : c = '&' <;> simp [resolveStep, heldBack, started]
  | some name =>
      by_cases ended : c = ';'
      · cases found : referenced? referent name <;> simp [resolveStep, heldBack, ended, found]
      · by_cases started : c = '&' <;> simp [resolveStep, heldBack, ended, started]

/-- Resolving references makes no text longer. -/
theorem length_resolve_le (referent : Nat → Option Char) (pending : Option Text) (text : Text) :
    (resolve referent pending text).2.length + (heldBack (resolve referent pending text).1).length ≤
      (heldBack pending).length + text.length := by
  induction text generalizing pending with
  | nil => simp [resolve]
  | cons c rest inductionHypothesis =>
      have one := length_resolveStep_le referent pending c
      have others := inductionHypothesis (resolveStep referent pending c).1
      simp only [resolve, List.length_append, List.length_cons]
      omega

theorem length_unescape_le (text : Text) : (unescape referent text).length ≤ text.length := by
  have bounded := length_resolve_le referent none text
  simpa [unescape, heldBack] using bounded

/-! ## Content -/

/-- Between tags the characters are met for which a text stands. -/
theorem leads_content {text : Text} (untagged : '<' ∉ text) (pending : Option Text) :
    Leads (step referent) (.content pending) text (.content (resolve referent pending text).1)
      ((resolve referent pending text).2.map .character) := by
  induction text generalizing pending with
  | nil => exact .nil _
  | cons c rest inductionHypothesis =>
      rw [List.mem_cons, not_or] at untagged
      have first : Leads (step referent) (.content pending) [c]
          (.content (resolveStep referent pending c).1)
          ((resolveStep referent pending c).2.map .character) :=
        Leads.single (by simp [step, Ne.symm untagged.1])
      simpa [resolve] using first.append (inductionHypothesis untagged.2 _)

/-- A text that is read as itself between tags. -/
theorem leads_content_of_resolve {text meant : Text} (untagged : '<' ∉ text)
    (resolved : resolve referent none text = (none, meant)) :
    Leads (step referent) (.content none) text (.content none) (meant.map .character) := by
  have read : Leads (step referent) (.content none) text (.content (resolve referent none text).1)
      ((resolve referent none text).2.map .character) := leads_content untagged none
  rwa [resolved] at read

/-! ## Tags -/

/-- What can be the name of an element or of an attribute. -/
def IsName (name : Text) : Prop :=
  name ≠ [] ∧ ∀ c ∈ name, isNameChar c = true

instance (name : Text) : Decidable (IsName name) :=
  decidable_of_iff (name ≠ [] ∧ name.all isNameChar = true) (by rw [IsName, List.all_eq_true])

/-- The attributes of a tag as they are written. -/
def attributesText (attributes : List (String × Text)) : Text :=
  attributes.flatMap fun (name, value) => attributeText name value

/-- An attribute whose value ends where it is meant to. -/
def Proper (written : String × Text) : Prop :=
  IsName written.1.toList ∧ '\x22' ∉ written.2

/-- A class and a style without quotes are the attributes of a tag. -/
theorem proper_classAndStyle {cls style : Text} (classUnquoted : '\x22' ∉ cls)
    (styleUnquoted : '\x22' ∉ style) :
    ∀ written ∈ [("class", cls), ("style", style)], Proper written := by
  have classNamed : IsName "class".toList := by decide
  have styleNamed : IsName "style".toList := by decide
  rw [List.forall_mem_cons, List.forall_mem_singleton]
  exact ⟨⟨classNamed, classUnquoted⟩, styleNamed, styleUnquoted⟩

/-- An attribute as it is meant, from its name and its value as it is written. -/
def Attribute.ofWritten (referent : Nat → Option Char) (written : String × Text) : Attribute :=
  ⟨written.1.toList, unescape referent written.2⟩

theorem leads_closing {name : Text} (named : IsName name) :
    Leads (step referent) (.content none) (['<', '/'] ++ name ++ ['>']) (.content none)
      [.closing name] := by
  have bracket : Leads (step referent) (.content none) ['<'] .bracket [] := Leads.single rfl
  have slash : Leads (step referent) .bracket ['/'] (.closingName []) [] := Leads.single rfl
  have letters : Leads (step referent) (.closingName []) name (.closingName ([] ++ name)) [] :=
    Leads.taken Stage.closingName
      (fun front c member => by simp [step, named.2 c member]) []
  have ending : Leads (step referent) (.closingName name) ['>'] (.content none) [.closing name] :=
    Leads.single (by simp [step, named.1, show isNameChar '>' = false by decide])
  exact ((bracket.append slash).append letters).append ending

/-- An attribute is read to the quote that ends its value. -/
theorem leads_attributeValue {stage : Stage} {element : Text} {front : List Attribute}
    {name : String} {value : Text}
    (begun : step referent stage ' ' = some (.attributeName element front [], []))
    (named : IsName name.toList) (unquoted : '\x22' ∉ value) :
    Leads (step referent) stage (' ' :: name.toList ++ ['=', '\x22'] ++ value)
      (.value element front name.toList value) [] := by
  have blank := Leads.single begun
  have letters : Leads (step referent) (.attributeName element front []) name.toList
      (.attributeName element front ([] ++ name.toList)) [] :=
    Leads.taken (Stage.attributeName element front)
      (fun earlier c member => by simp [step, named.2 c member]) []
  have equals : Leads (step referent) (.attributeName element front name.toList) ['=']
      (.equalsSign element front name.toList) [] :=
    Leads.single (by simp [step, named.1, show isNameChar '=' = false by decide])
  have quote : Leads (step referent) (.equalsSign element front name.toList) ['\x22']
      (.value element front name.toList []) [] := Leads.single rfl
  have written : Leads (step referent) (.value element front name.toList []) value
      (.value element front name.toList ([] ++ value)) [] :=
    Leads.taken (Stage.value element front name.toList)
      (fun earlier c member => by
        have other : c ≠ '\x22' := fun same => unquoted (same ▸ member)
        simp [step, other]) []
  have whole := (blank.append letters).append (equals.append quote) |>.append written
  simpa using whole

/-- An attribute is read as its name and its value with the references resolved. -/
theorem leads_attributeRead {stage : Stage} {element : Text} {front : List Attribute}
    {name : String} {value : Text}
    (begun : step referent stage ' ' = some (.attributeName element front [], []))
    (named : IsName name.toList) (unquoted : '\x22' ∉ value) :
    Leads (step referent) stage (attributeText name value)
      (.afterValue element (front ++ [.ofWritten referent (name, value)])) [] := by
  have quote : Leads (step referent) (.value element front name.toList value) ['\x22']
      (.afterValue element (front ++ [.ofWritten referent (name, value)])) [] := Leads.single rfl
  exact (leads_attributeValue begun named unquoted).append quote

/-- The attributes of a tag and its closing angle bracket. -/
theorem leads_tagEnd {stage : Stage} {element : Text} {front : List Attribute}
    (ends : ∀ c, isNameChar c = false → step referent stage c = tagStep element front c)
    {attributes : List (String × Text)}
    (proper : ∀ written ∈ attributes, Proper written) :
    Leads (step referent) stage (attributesText attributes ++ ['>']) (.content none)
      [.opening element (front ++ attributes.map (.ofWritten referent))] := by
  induction attributes generalizing stage front with
  | nil => simpa [attributesText] using Leads.single ((ends '>' (by decide)).trans rfl)
  | cons written later inductionHypothesis =>
      rw [List.forall_mem_cons] at proper
      have first := leads_attributeRead ((ends ' ' (by decide)).trans rfl) proper.1.1 proper.1.2
      have others := @inductionHypothesis (.afterValue element
        (front ++ [.ofWritten referent written])) _ (fun _ _ => rfl) proper.2
      simpa [attributesText] using first.append others

theorem leads_openingName {name : Text} (named : IsName name) :
    Leads (step referent) (.content none) ('<' :: name) (.openingName name) [] := by
  obtain ⟨filled, letters⟩ := named
  cases name with
  | nil => contradiction
  | cons c others =>
      rw [List.forall_mem_cons] at letters
      have notSlash : c ≠ '/' := by
        rintro rfl
        exact absurd letters.1 (by decide)
      have bracket : Leads (step referent) (.content none) ['<'] .bracket [] := Leads.single rfl
      have first : Leads (step referent) .bracket [c] (.openingName [c]) [] :=
        Leads.single (by simp [step, notSlash, letters.1])
      have rest :
          Leads (step referent) (.openingName [c]) others (.openingName ([c] ++ others)) [] :=
        Leads.taken Stage.openingName
          (fun front d member => by simp [step, letters.2 d member]) [c]
      exact (bracket.append first).append rest

theorem leads_opening {name : Text} (named : IsName name) {attributes : List (String × Text)}
    (proper : ∀ written ∈ attributes, Proper written) :
    Leads (step referent) (.content none) ('<' :: name ++ (attributesText attributes ++ ['>']))
      (.content none) [.opening name (attributes.map (.ofWritten referent))] := by
  have ends : ∀ c, isNameChar c = false →
      step referent (.openingName name) c = tagStep name [] c := by
    intro c other
    simp [step, other]
  simpa using (leads_openingName named).append (leads_tagEnd ends proper)

/-- An element is met as its tags around what is met in its content. -/
theorem leads_element {name : String} (named : IsName name.toList)
    (attributes : List (String × Text))
    (proper : ∀ written ∈ attributes, Proper written)
    {inside : Text} {met : List Event}
    (read : Leads (step referent) (.content none) inside (.content none) met) :
    Leads (step referent) (.content none) (Markup.element name (attributesText attributes) inside)
      (.content none)
      (.opening name.toList (attributes.map (.ofWritten referent)) :: met ++
        [.closing name.toList]) := by
  have whole := ((leads_opening named proper).append read).append (leads_closing named)
  simpa [Markup.element] using whole

/-- A reader who comes back to where it started has met everything there is. -/
theorem events?_of_leads {text : Text} {met : List Event}
    (read : Leads (step referent) (.content none) text (.content none) met) :
    events? referent text = some met := by
  unfold Leads at read
  simp [events?, read, heldBack]

end

end Highlighter.Markup
