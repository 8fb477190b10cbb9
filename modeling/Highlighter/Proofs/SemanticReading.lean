import Highlighter.Proofs.SemanticEntries

/-!
# What an editor reads from semantic tokens

An editor adds up the integers that it is sent, five for each entry.  What it reads are
the entries of the reported parts, and nothing else.  A later part stands behind the
text of an earlier one, hence the entries are in the order of the document and apart
from each other, and no integer is negative.

Nothing is sent for tokens that hold a surrogate.  Where it stands makes no difference: the
encoder counts the units of all tokens, also of those that it does not report.
-/

namespace Highlighter.Semantic

/-! ## Reading the integers back -/

/-- An entry as an editor reads it. -/
structure Reading where
  line : Int
  start : Int
  length : Int
  typeIndex : Int
  modifiers : Int
  deriving DecidableEq, Repr

/-- What is read of an entry that is sent. -/
def Entry.reading (entry : Entry) : Reading :=
  ⟨entry.line, entry.start, entry.length, entry.typeIndex, 0⟩

/-- Read integers in groups of five, given the line and the start of the entry before: lines
are added up, and a start is added to the one before on the same line only. -/
def readFrom (line start : Int) : List Int → Option (List Reading)
  | [] => some []
  | lines :: units :: length :: typeIndex :: modifiers :: later =>
      let reached := if lines = 0 then start + units else units
      (readFrom (line + lines) reached later).map
        (⟨line + lines, reached, length, typeIndex, modifiers⟩ :: ·)
  | _ => none

/-- Read integers from the start of a document. -/
def read (integers : List Int) : Option (List Reading) :=
  readFrom 0 0 integers

/-- A start that counts from the one before on the same line only is restored. -/
theorem start_restored (lines previous start : Int) :
    (if lines = 0 then previous + (if lines = 0 then start - previous else start)
      else (if lines = 0 then start - previous else start)) = start := by
  split <;> omega

/-- Counting from the entry before is undone by adding up. -/
theorem readFrom_relativeFrom (place : Place) (entries : List Entry) :
    readFrom place.line place.unit (relativeFrom place entries) =
      some (entries.map Entry.reading) := by
  induction entries generalizing place with
  | nil => rfl
  | cons entry later inductionHypothesis =>
      have lines : (place.line : Int) + (entry.line - place.line) = entry.line := by omega
      have others : readFrom entry.line entry.start
          (relativeFrom ⟨entry.line, entry.start⟩ later) = some (later.map Entry.reading) :=
        inductionHypothesis ⟨entry.line, entry.start⟩
      simp only [relativeFrom, List.cons_append, List.nil_append, readFrom, lines,
        start_restored, others, Option.map_some]
      rfl

/-! ## Order -/

/-- An entry ends before another one starts. -/
def Entry.Precedes (first second : Entry) : Prop :=
  first.line < second.line ∨
    first.line = second.line ∧ first.start + first.length ≤ second.start

/-- Counted from a place before them, entries in order are sent as natural numbers. -/
theorem relativeFrom_nonneg {place : Place} {entries : List Entry}
    (reached : ∀ entry ∈ entries, place.AtOrBefore ⟨entry.line, entry.start⟩)
    (ordered : entries.Pairwise Entry.Precedes) :
    ∀ integer ∈ relativeFrom place entries, 0 ≤ integer := by
  induction entries generalizing place with
  | nil =>
      intro integer member
      contradiction
  | cons entry later inductionHypothesis =>
      obtain ⟨precedes, laterOrdered⟩ := List.pairwise_cons.mp ordered
      have here := reached entry List.mem_cons_self
      have laterReached : ∀ other ∈ later,
          Place.AtOrBefore ⟨entry.line, entry.start⟩ ⟨other.line, other.start⟩ := by
        intro other member
        rcases precedes other member with lower | ⟨same, apart⟩
        · exact Or.inl lower
        · exact Or.inr ⟨same, Nat.le_of_add_right_le apart⟩
      intro integer member
      rcases List.mem_append.mp member with own | other
      · simp only [Place.AtOrBefore] at here
        simp only [List.mem_cons, List.not_mem_nil, or_false] at own
        rcases own with rfl | rfl | rfl | rfl | rfl
        · omega
        · split <;> omega
        · omega
        · omega
        · omega
      · exact inductionHypothesis laterReached laterOrdered integer other

/-- What is reported of a part lies inside the part. -/
theorem utf16Length_withoutReturns_le (line : LooseText) :
    line.withoutReturns.utf16Length ≤ line.utf16Length := by
  obtain ⟨returns, _, whole⟩ := line.exists_returns
  have lengths := LooseText.utf16Length_append line.withoutReturns returns
  rw [whole] at lengths
  omega

/-- What the entry of a part says. -/
theorem Part.entry?_eq_some_iff {part : Part} {entry : Entry} :
    part.entry? = some entry ↔
      part.text.withoutReturns ≠ [] ∧ typeIndex? part.token.cls = some entry.typeIndex ∧
        entry.line = (Place.after part.before).line ∧
        entry.start = (Place.after part.before).unit ∧
        entry.length = part.text.withoutReturns.utf16Length := by
  obtain ⟨line, start, length, typeIndex⟩ := entry
  unfold entry?
  by_cases blank : part.text.withoutReturns = []
  · rw [if_pos blank]
    constructor
    · intro reported
      contradiction
    · rintro ⟨filled, _⟩
      exact absurd blank filled
  · rw [if_neg blank, Option.map_eq_some_iff]
    constructor
    · rintro ⟨index, typed, same⟩
      cases same
      exact ⟨blank, typed, rfl, rfl, rfl⟩
    · rintro ⟨_, typed, line_eq, start_eq, length_eq⟩
      simp only at typed line_eq start_eq length_eq
      subst line_eq start_eq length_eq
      exact ⟨typeIndex, typed, rfl⟩

/-- The entry of a part ends before that of a part that follows. -/
theorem precedes_of_follows {first second : Part} (unbroken : .scalar '\n' ∉ first.text)
    (follows : first.Follows second) {firstEntry secondEntry : Entry}
    (firstReported : first.entry? = some firstEntry)
    (secondReported : second.entry? = some secondEntry) : firstEntry.Precedes secondEntry := by
  obtain ⟨_, _, firstLine, firstStart, firstLength⟩ := Part.entry?_eq_some_iff.mp firstReported
  obtain ⟨_, _, secondLine, secondStart, _⟩ := Part.entry?_eq_some_iff.mp secondReported
  have reached := Place.after_atOrBefore follows
  rw [Place.after_append unbroken] at reached
  have length_le := utf16Length_withoutReturns_le first.text
  unfold Entry.Precedes
  simp only [Place.AtOrBefore] at reached
  omega

theorem pairwise_entries (tokens : List LooseToken) :
    ((parts tokens).filterMap Part.entry?).Pairwise Entry.Precedes := by
  rw [List.pairwise_filterMap]
  apply (pairwise_partsAfter [] tokens).imp_of_mem
  intro first second firstMember _ follows firstEntry firstReported secondEntry secondReported
  exact precedes_of_follows (lineFeed_not_mem_of_mem_partsAfter firstMember) follows
    firstReported secondReported

/-! ## Types -/

/-- The name under which editors know the type of a class. -/
def typeName : TokenClass → String
  | .functionCall => "function"
  | .identifier => "variable"
  | cls => cls.name

/-- The legend has the name of a type at its index. -/
theorem legend_of_typeIndex? {cls : TokenClass} {index : Nat}
    (typed : typeIndex? cls = some index) : legend[index]? = some (typeName cls) := by
  cases cls <;> cases typed <;> rfl

/-! ## What is sent -/

/-- The tokens of a loose text are sent exactly if the text holds no surrogate. -/
theorem exists_data_iff {tokens : List LooseToken} :
    (∃ integers, data tokens = .ok integers) ↔ (LooseToken.source tokens).IsScalar := by
  have encoded := @findSome?_fault?_eq_none_iff [] tokens
  rw [data_eq, ← encoded, parts]
  cases (partsAfter [] tokens).findSome? Part.fault? with
  | none => exact iff_of_true ⟨_, rfl⟩ rfl
  | some fault => exact iff_of_false nofun nofun

/-- Tokens are refused for the first surrogate of their first part with one. -/
theorem data_eq_error_iff {tokens : List LooseToken} {fault : Unencodable} :
    data tokens = .error fault ↔ (parts tokens).findSome? Part.fault? = some fault := by
  rw [data_eq]
  cases (parts tokens).findSome? Part.fault? with
  | none => exact iff_of_false nofun nofun
  | some found => rw [Unencodable.unless, Except.error.injEq, Option.some.injEq]

theorem relativeFrom_of_data {tokens : List LooseToken} {integers : List Int}
    (sent : data tokens = .ok integers) :
    relativeFrom ⟨0, 0⟩ ((parts tokens).filterMap Part.entry?) = integers := by
  rw [data_eq] at sent
  cases encoded : (parts tokens).findSome? Part.fault? with
  | none =>
      rw [encoded] at sent
      exact Except.ok.inj sent
  | some fault =>
      rw [encoded] at sent
      contradiction

/-- An editor that reads the integers of tokens finds exactly the entries of the reported
parts, at the places that the text before them reaches and with the types of their classes.
No integer is negative, and each entry ends before the next one starts.  There are no integers
exactly if the tokens hold a surrogate, and then the first one is at fault.  Where the tokens
are those of a text in some language, the line of the first part of a token is the line that
the token starts on. -/
theorem reading_of_semantic_tokens (tokens : List LooseToken) :
    ((∃ integers, data tokens = .ok integers) ↔ (LooseToken.source tokens).IsScalar) ∧
      (∀ fault, data tokens = .error fault ↔
        (parts tokens).findSome? Part.fault? = some fault) ∧
      (∀ integers, data tokens = .ok integers →
        read integers = some (((parts tokens).filterMap Part.entry?).map Entry.reading) ∧
          ∀ integer ∈ integers, 0 ≤ integer) ∧
      (∀ part ∈ parts tokens, part.before ++ part.text <+: LooseToken.source tokens ∧
        ∀ entry, part.entry? = some entry →
          legend[entry.typeIndex]? = some (typeName part.token.cls)) ∧
      ((parts tokens).filterMap Part.entry?).Pairwise Entry.Precedes ∧
      ∀ (text : LooseText) (language : Option Language),
        ∀ part ∈ parts (text.highlight language), part.index = 0 →
          ∀ entry, part.entry? = some entry →
            entry.line + 1 = part.token.span.start.line := by
  refine ⟨exists_data_iff, fun _ => data_eq_error_iff, ?_, ?_, pairwise_entries tokens, ?_⟩
  · intro integers sent
    rw [← relativeFrom_of_data sent]
    refine ⟨readFrom_relativeFrom ⟨0, 0⟩ _, relativeFrom_nonneg ?_ (pairwise_entries tokens)⟩
    intro entry _
    simp only [Place.AtOrBefore]
    omega
  · intro part member
    refine ⟨(prefix_of_mem_partsAfter member).2, fun entry reported => ?_⟩
    exact legend_of_typeIndex? (Part.entry?_eq_some_iff.mp reported).2.1
  · intro text language part member first entry reported
    have covered : Token.PartitionAfter (LooseText.scanned []) text.scanned
        (highlight text.scanned language) := partition_highlight text.scanned language
    have started := start_eq_of_mem_partsAfter covered member first
    obtain ⟨_, _, line, _, _⟩ := Part.entry?_eq_some_iff.mp reported
    rw [started, line, Position.after, Place.after, LooseText.count_scanned]

/-- Three lines with a pair of UTF-16 units and a carriage return among them: the second key
stands on the line that is read for it. -/
theorem reading_of_semantic_tokens_lines :
    let text : LooseText := "k: 1\n# 😀\r\nv"
    (∃ integers, data (text.highlight (some .yaml)) = .ok integers ∧
        read integers = some
          [⟨0, 0, 1, 7, 0⟩, ⟨0, 3, 1, 4, 0⟩, ⟨1, 0, 4, 1, 0⟩, ⟨2, 0, 1, 6, 0⟩]) ∧
      ∃ part ∈ parts (text.highlight (some .yaml)), part.index = 0 ∧
        part.entry? = some ⟨2, 0, 1, 6⟩ ∧ part.token.span.start.line = 3 := by
  intro text
  obtain ⟨sent, _, decoded, _, _, starts⟩ :=
    reading_of_semantic_tokens (text.highlight (some .yaml))
  constructor
  · have scalar : (LooseToken.source (text.highlight (some .yaml))).IsScalar := by
      rw [LooseText.source_highlight]
      exact LooseText.isScalar_ofText _
    obtain ⟨integers, encoded⟩ := sent.mpr scalar
    refine ⟨integers, encoded, (decoded integers encoded).1.trans ?_⟩
    decide +kernel
  · let token : LooseToken := ⟨.identifier, "v", ⟨⟨3, 1, 10⟩, ⟨3, 2, 11⟩⟩⟩
    let part : Part := ⟨token, 0, "k: 1\n# 😀\r\n", "v"⟩
    have member : part ∈ parts (text.highlight (some .yaml)) := by decide +kernel
    have reported : part.entry? = some ⟨2, 0, 1, 6⟩ := by decide +kernel
    exact ⟨part, member, rfl, reported, (starts text _ part member rfl _ reported).symm⟩

/-- A name of one surrogate has an entry of one unit, and nothing is sent of it. -/
theorem lone_surrogate_not_sent :
    let token : LooseToken :=
      ⟨.identifier, [.surrogate .least], ⟨⟨1, 1, 0⟩, ⟨1, 2, 1⟩⟩⟩
    (parts [token]).filterMap Part.entry? = [⟨0, 0, 1, 6⟩] ∧
      data [token] = .error ⟨"utf-16-le", .least, 0, 1⟩ :=
  ⟨by decide +kernel, rfl⟩

end Highlighter.Semantic
