import Highlighter.Proofs.LooseTexts
import Highlighter.Semantic.Tokens

/-!
# The parts of tokens that are reported

The encoder counts lines and units while it goes through the tokens.  Which entries are
due is stated here without counters: a part of a token between line feeds has its entry
at the place that the text before the part reaches, and that place is read off the text.
The two agree, since the counters of the encoder are in step with the text.

The encoder gives up at the first part that holds a surrogate, whether the part has an entry
or not.
-/

namespace Highlighter

namespace LooseText

/-! ## Lines and units -/

/-- What follows the last line feed of a text. -/
def lastLine (text : LooseText) : LooseText :=
  (text.reverse.takeWhile (· != .scalar '\n')).reverse

/-- A text without line feeds lengthens the last line of the text before it. -/
theorem lastLine_append {slice : LooseText} (unbroken : .scalar '\n' ∉ slice)
    (before : LooseText) : lastLine (before ++ slice) = before.lastLine ++ slice := by
  have passed : ∀ point ∈ slice.reverse, (point != .scalar '\n') = true := by
    intro point member
    rw [bne_iff_ne]
    rintro rfl
    exact unbroken (List.mem_reverse.mp member)
  rw [lastLine, List.reverse_append, List.takeWhile_append_of_pos passed, List.reverse_append,
    List.reverse_reverse, lastLine]

theorem lastLine_concat_lineFeed (before : LooseText) :
    lastLine (before ++ [.scalar '\n']) = [] := by
  rw [lastLine, List.reverse_append]
  rfl

theorem lines_ne_nil (text : LooseText) : text.lines ≠ [] :=
  List.splitOn_ne_nil _ _

/-- Joining the lines of a text with line feeds gives the text back. -/
theorem intercalate_lines (text : LooseText) : [.scalar '\n'].intercalate text.lines = text :=
  List.intercalate_splitOn _

theorem lineFeed_not_mem_of_mem_lines {text line : LooseText} (member : line ∈ text.lines) :
    .scalar '\n' ∉ line := by
  rw [lines, List.splitOn_eq_splitOnP] at member
  induction text generalizing line with
  | nil =>
      rw [List.splitOnP_nil, List.mem_singleton] at member
      subst member
      exact List.not_mem_nil
  | cons point rest inductionHypothesis =>
      rw [List.splitOnP_cons_eq_if_modifyHead] at member
      split at member
      · rcases List.mem_cons.mp member with rfl | other
        · exact List.not_mem_nil
        · exact inductionHypothesis other
      · next other =>
          have differs : .scalar '\n' ≠ point := fun same => other (beq_iff_eq.mpr same.symm)
          cases cut : rest.splitOnP (· == .scalar '\n') with
          | nil => exact absurd cut (List.splitOnP_ne_nil _ _)
          | cons first later =>
              rw [cut] at member inductionHypothesis
              rcases List.mem_cons.mp member with rfl | further
              · exact List.not_mem_cons_of_ne_of_not_mem differs
                  (inductionHypothesis List.mem_cons_self)
              · exact inductionHypothesis (List.mem_cons_of_mem first further)

/-- What is left of a line without the carriage returns at its end is the start of the line, and
carriage returns are no surrogates. -/
theorem exists_returns (line : LooseText) :
    ∃ returns : LooseText, returns.IsScalar ∧ line.withoutReturns ++ returns = line := by
  refine ⟨(line.reverse.takeWhile (· == .scalar '\r')).reverse, ?_, ?_⟩
  · intro point member
    have passed := List.all_takeWhile (p := (· == .scalar '\r')) (l := line.reverse)
    rw [List.all_eq_true] at passed
    rw [beq_iff_eq.mp (passed point (List.mem_reverse.mp member))]
    rfl
  · rw [withoutReturns, ← List.reverse_append, List.takeWhile_append_dropWhile,
      List.reverse_reverse]

theorem utf16Fault?_withoutReturns (line : LooseText) :
    line.withoutReturns.utf16Fault? = line.utf16Fault? := by
  obtain ⟨returns, scalar, whole⟩ := line.exists_returns
  rw [← utf16Fault?_append line.withoutReturns scalar, whole]

theorem utf16Length_cons (point : CodePoint) (rest : LooseText) :
    utf16Length (point :: rest) = point.utf16Units + utf16Length rest :=
  rfl

theorem utf16Length_append (first second : LooseText) :
    utf16Length (first ++ second) = first.utf16Length + second.utf16Length := by
  induction first with
  | nil => exact (Nat.zero_add _).symm
  | cons point rest inductionHypothesis =>
      rw [List.cons_append, utf16Length_cons, utf16Length_cons, inductionHypothesis,
        Nat.add_assoc]

theorem utf16Length_eq_zero_iff {text : LooseText} : text.utf16Length = 0 ↔ text = [] := by
  cases text with
  | nil => simp [utf16Length]
  | cons point rest =>
      have units_pos : 0 < point.utf16Units := by
        cases point with
        | scalar c =>
            change 0 < if c.toNat < 0x10000 then 1 else 2
            split <;> decide
        | surrogate point => exact Nat.one_pos
      simp only [utf16Length_cons, reduceCtorEq, iff_false]
      omega

end LooseText

namespace Semantic

/-! ## Places -/

namespace Place

/-- The place that a text reaches. -/
def after (text : LooseText) : Place :=
  ⟨text.count (.scalar '\n'), text.lastLine.utf16Length⟩

/-- Text without line feeds leads on along the line. -/
theorem after_append {slice : LooseText} (unbroken : .scalar '\n' ∉ slice) (before : LooseText) :
    after (before ++ slice) = ⟨(after before).line, (after before).unit + slice.utf16Length⟩ := by
  rw [after, List.count_append, List.count_eq_zero.mpr unbroken, Nat.add_zero,
    LooseText.lastLine_append unbroken, LooseText.utf16Length_append]
  rfl

/-- A line feed leads to the start of the next line. -/
theorem after_concat_lineFeed (before : LooseText) :
    after (before ++ [.scalar '\n']) = ⟨(after before).line + 1, 0⟩ := by
  rw [after, List.count_append, LooseText.lastLine_concat_lineFeed]
  rfl

/-- A place is at or before another one. -/
def AtOrBefore (first second : Place) : Prop :=
  first.line < second.line ∨ first.line = second.line ∧ first.unit ≤ second.unit

/-- More text leads to no earlier place. -/
theorem after_atOrBefore {text longer : LooseText} (extended : text <+: longer) :
    (after text).AtOrBefore (after longer) := by
  obtain ⟨slice, rfl⟩ := extended
  by_cases broken : .scalar '\n' ∈ slice
  · left
    have fed := List.count_pos_iff.mpr broken
    simp only [after, List.count_append]
    omega
  · right
    rw [after_append broken]
    exact ⟨rfl, Nat.le_add_right _ _⟩

end Place

/-! ## The parts of tokens -/

/-- A part of a token between line feeds. -/
structure Part where
  token : LooseToken
  /-- The number of parts of the token before this one. -/
  index : Nat
  /-- All text before the part, that of earlier tokens and parts with their line feeds. -/
  before : LooseText
  text : LooseText
  deriving DecidableEq, Repr

/-- The parts of a token from one on, given the texts of these parts. -/
def lineParts (token : LooseToken) (index : Nat) (before : LooseText) : List LooseText → List Part
  | [] => []
  | line :: later =>
      ⟨token, index, before, line⟩ ::
        lineParts token (index + 1) (before ++ line ++ [.scalar '\n']) later

/-- The parts of tokens that follow a text. -/
def partsAfter (before : LooseText) : List LooseToken → List Part
  | [] => []
  | token :: later =>
      lineParts token 0 before token.text.lines ++ partsAfter (before ++ token.text) later

/-- The parts of tokens, in order. -/
def parts (tokens : List LooseToken) : List Part :=
  partsAfter [] tokens

/-- The entry of a part, at the place that the text before it reaches.  A part of carriage
returns only has none, and neither has a part of a token that is not reported. -/
def Part.entry? (part : Part) : Option Entry :=
  if part.text.withoutReturns = [] then none
  else
    (typeIndex? part.token.cls).map fun index =>
      ⟨(Place.after part.before).line, (Place.after part.before).unit,
        part.text.withoutReturns.utf16Length, index⟩

/-- Why a part is not encoded: the first surrogate in it. -/
def Part.fault? (part : Part) : Option Unencodable :=
  part.text.utf16Fault?

/-- The encoder reports a part at the place that the text before it reaches, unless it holds a
surrogate. -/
theorem reportPart_eq (token : LooseToken) (index : Nat) (before : LooseText) {line : LooseText}
    (unbroken : .scalar '\n' ∉ line) :
    reportPart (typeIndex? token.cls) (.after before) line =
      Unencodable.unless line.utf16Fault?
        (Part.entry? ⟨token, index, before, line⟩, .after (before ++ line)) := by
  have reported : reported? (typeIndex? token.cls) (.after before)
      line.withoutReturns.utf16Length = Part.entry? ⟨token, index, before, line⟩ := by
    unfold reported? Part.entry?
    simp only [LooseText.utf16Length_eq_zero_iff]
  rw [Place.after_append unbroken, ← reported]
  unfold reportPart LooseText.encodedLength
  rw [LooseText.utf16Fault?_withoutReturns]
  cases line.utf16Fault? <;> rfl

theorem filterMap_entry?_cons (part : Part) (later : List Part) :
    (part :: later).filterMap Part.entry? = part.entry?.toList ++ later.filterMap Part.entry? := by
  rw [List.filterMap_cons]
  cases part.entry? <;> rfl

theorem lineParts_cons (token : LooseToken) (index : Nat) (before line : LooseText)
    (later : List LooseText) :
    lineParts token index before (line :: later) =
      ⟨token, index, before, line⟩ ::
        lineParts token (index + 1) (before ++ line ++ [.scalar '\n']) later :=
  rfl

/-- A line with its line feed, and joined lines after it, are joined lines. -/
theorem append_intercalate_lines (before line second : LooseText) (others : List LooseText) :
    before ++ line ++ [.scalar '\n'] ++ [.scalar '\n'].intercalate (second :: others) =
      before ++ [.scalar '\n'].intercalate (line :: second :: others) := by
  rw [List.intercalate_cons_cons, List.append_assoc, List.append_assoc, List.append_assoc]

theorem partEntries_cons_cons (typeIndex : Option Nat) (place : Place)
    (line second : LooseText) (others : List LooseText) :
    partEntries typeIndex place (line :: second :: others) = (do
      let (entry, _) ← reportPart typeIndex place line
      let (entries, reached) ← partEntries typeIndex ⟨place.line + 1, 0⟩ (second :: others)
      return (entry.toList ++ entries, reached)) :=
  rfl

/-- The encoder goes through the lines of a token with its places in step with the text, up to
the first surrogate. -/
theorem partEntries_eq (token : LooseToken) (index : Nat) (before : LooseText)
    {lines : List LooseText} (some_line : lines ≠ [])
    (unbroken : ∀ line ∈ lines, .scalar '\n' ∉ line) :
    partEntries (typeIndex? token.cls) (.after before) lines =
      Unencodable.unless ((lineParts token index before lines).findSome? Part.fault?)
        ((lineParts token index before lines).filterMap Part.entry?,
          .after (before ++ [.scalar '\n'].intercalate lines)) := by
  induction lines generalizing index before with
  | nil => contradiction
  | cons line later inductionHypothesis =>
      have lineUnbroken := unbroken line List.mem_cons_self
      have own := reportPart_eq token index before lineUnbroken
      cases later with
      | nil =>
          rw [partEntries, own, List.intercalate_singleton, lineParts, lineParts,
            filterMap_entry?_cons, List.findSome?_singleton, Part.fault?]
          cases line.utf16Fault? <;> simp [Unencodable.unless]
      | cons second others =>
          have next : ⟨(Place.after before).line + 1, 0⟩ =
              Place.after (before ++ line ++ [.scalar '\n']) := by
            rw [Place.after_concat_lineFeed, Place.after_append lineUnbroken]
          have laterUnbroken : ∀ further ∈ second :: others, .scalar '\n' ∉ further :=
            fun further member => unbroken further (List.mem_cons_of_mem line member)
          have laterEntries := inductionHypothesis (index + 1)
            (before ++ line ++ [.scalar '\n']) (List.cons_ne_nil second others) laterUnbroken
          rw [partEntries_cons_cons, next, laterEntries, own, append_intercalate_lines,
            lineParts_cons token index before line, filterMap_entry?_cons,
            List.findSome?_cons, Part.fault?]
          cases line.utf16Fault? with
          | some fault => rfl
          | none =>
              cases (lineParts token (index + 1) (before ++ line ++ [.scalar '\n'])
                (second :: others)).findSome? Part.fault? <;> rfl

/-- The entries of tokens are those of their parts, unless one of these holds a surrogate. -/
theorem entriesFrom_eq (before : LooseText) (tokens : List LooseToken) :
    entriesFrom (.after before) tokens =
      Unencodable.unless ((partsAfter before tokens).findSome? Part.fault?)
        ((partsAfter before tokens).filterMap Part.entry?) := by
  induction tokens generalizing before with
  | nil => rfl
  | cons token later inductionHypothesis =>
      have unbroken : ∀ line ∈ token.text.lines, .scalar '\n' ∉ line :=
        fun _ member => LooseText.lineFeed_not_mem_of_mem_lines member
      have own := partEntries_eq token 0 before token.text.lines_ne_nil unbroken
      rw [LooseText.intercalate_lines] at own
      rw [entriesFrom, own, partsAfter, List.filterMap_append, List.findSome?_append]
      cases (lineParts token 0 before token.text.lines).findSome? Part.fault? with
      | some fault => rfl
      | none =>
          simp only [Unencodable.unless, bind, Except.bind, inductionHypothesis, Option.none_or]
          cases (partsAfter (before ++ token.text) later).findSome? Part.fault? <;> rfl

theorem entries_eq (tokens : List LooseToken) :
    entries tokens =
      Unencodable.unless ((parts tokens).findSome? Part.fault?)
        ((parts tokens).filterMap Part.entry?) :=
  entriesFrom_eq [] tokens

/-- The integers that report tokens are those of the entries of their parts, unless one of these
holds a surrogate. -/
theorem data_eq (tokens : List LooseToken) :
    data tokens =
      Unencodable.unless ((parts tokens).findSome? Part.fault?)
        (relativeFrom ⟨0, 0⟩ ((parts tokens).filterMap Part.entry?)) := by
  unfold data
  rw [entries_eq]
  cases (parts tokens).findSome? Part.fault? <;> rfl

/-! ## Where parts stand -/

theorem prefix_of_mem_lineParts {token : LooseToken} {index : Nat} {before : LooseText}
    {lines : List LooseText} {part : Part} (member : part ∈ lineParts token index before lines) :
    before <+: part.before ∧
      part.before ++ part.text <+: before ++ [.scalar '\n'].intercalate lines := by
  induction lines generalizing index before with
  | nil => contradiction
  | cons line later inductionHypothesis =>
      rw [lineParts_cons, List.mem_cons] at member
      cases later with
      | nil =>
          rcases member with rfl | other
          · rw [List.intercalate_singleton]
            exact ⟨List.prefix_refl before, List.prefix_refl _⟩
          · contradiction
      | cons second others =>
          rw [← append_intercalate_lines, List.append_assoc (before ++ line)]
          rcases member with rfl | other
          · exact ⟨List.prefix_refl before, List.prefix_append _ _⟩
          · obtain ⟨started, ended⟩ := inductionHypothesis other
            rw [List.append_assoc (before ++ line)] at ended
            refine ⟨?_, ended⟩
            rw [List.append_assoc] at started
            exact (List.prefix_append before _).trans started

/-- A part stands in the text of the tokens, behind the text before it. -/
theorem prefix_of_mem_partsAfter {before : LooseText} {tokens : List LooseToken} {part : Part}
    (member : part ∈ partsAfter before tokens) :
    before <+: part.before ∧ part.before ++ part.text <+: before ++ LooseToken.source tokens := by
  induction tokens generalizing before with
  | nil => contradiction
  | cons token later inductionHypothesis =>
      have whole : before ++ token.text ++ LooseToken.source later =
          before ++ LooseToken.source (token :: later) := List.append_assoc before token.text _
      rw [← whole]
      rcases List.mem_append.mp member with own | other
      · obtain ⟨started, ended⟩ := prefix_of_mem_lineParts own
        rw [LooseText.intercalate_lines] at ended
        exact ⟨started, ended.trans (List.prefix_append _ _)⟩
      · obtain ⟨started, ended⟩ := inductionHypothesis other
        exact ⟨(List.prefix_append before token.text).trans started, ended⟩

/-- A part follows the text of another one. -/
def Part.Follows (first second : Part) : Prop :=
  first.before ++ first.text <+: second.before

theorem pairwise_lineParts (token : LooseToken) (index : Nat) (before : LooseText)
    (lines : List LooseText) :
    (lineParts token index before lines).Pairwise Part.Follows := by
  induction lines generalizing index before with
  | nil => exact List.Pairwise.nil
  | cons line later inductionHypothesis =>
      rw [lineParts_cons, List.pairwise_cons]
      refine ⟨?_, inductionHypothesis _ _⟩
      intro part member
      exact (List.prefix_append _ [.scalar '\n']).trans (prefix_of_mem_lineParts member).1

theorem pairwise_partsAfter (before : LooseText) (tokens : List LooseToken) :
    (partsAfter before tokens).Pairwise Part.Follows := by
  induction tokens generalizing before with
  | nil => exact List.Pairwise.nil
  | cons token later inductionHypothesis =>
      rw [partsAfter, List.pairwise_append]
      refine ⟨pairwise_lineParts token 0 before _, inductionHypothesis _, ?_⟩
      intro first firstMember second secondMember
      have ended := (prefix_of_mem_lineParts firstMember).2
      rw [LooseText.intercalate_lines] at ended
      exact ended.trans (prefix_of_mem_partsAfter secondMember).1

/-- The parts of a token are lines of its text, numbered from the first one on. -/
theorem numbered_line_of_mem_lineParts {token : LooseToken} {index : Nat} {before : LooseText}
    {lines : List LooseText} {part : Part} (member : part ∈ lineParts token index before lines) :
    part.text ∈ lines ∧ index ≤ part.index := by
  induction lines generalizing index before with
  | nil => contradiction
  | cons line later inductionHypothesis =>
      rcases List.mem_cons.mp member with rfl | other
      · exact ⟨List.mem_cons_self, Nat.le_refl index⟩
      · obtain ⟨further, numbered⟩ := inductionHypothesis other
        exact ⟨List.mem_cons_of_mem line further, Nat.le_of_succ_le numbered⟩

/-- No part holds a line feed. -/
theorem lineFeed_not_mem_of_mem_partsAfter {before : LooseText} {tokens : List LooseToken}
    {part : Part} (member : part ∈ partsAfter before tokens) : .scalar '\n' ∉ part.text := by
  induction tokens generalizing before with
  | nil => contradiction
  | cons token later inductionHypothesis =>
      rcases List.mem_append.mp member with own | other
      · exact LooseText.lineFeed_not_mem_of_mem_lines (numbered_line_of_mem_lineParts own).1
      · exact inductionHypothesis other

/-- The tokens of a scan start where the text before their first part ends. -/
theorem start_eq_of_mem_partsAfter {before text : LooseText} {tokens : List Token}
    (covered : Token.PartitionAfter before.scanned text.scanned tokens) {part : Part}
    (member : part ∈ partsAfter before (LooseToken.cutFrom text tokens))
    (first : part.index = 0) : part.token.span.start = .after part.before.scanned := by
  induction tokens generalizing before text with
  | nil => contradiction
  | cons token later inductionHypothesis =>
      obtain ⟨_, placed, rest, whole, laterCovered⟩ := covered
      obtain ⟨own_scanned, rest_scanned⟩ := LooseText.scanned_cut whole
      rcases List.mem_append.mp member with own | other
      · generalize lines_eq : LooseText.lines (text.take token.text.length) = lines at own
        cases lines with
        | nil => exact absurd lines_eq (LooseText.lines_ne_nil _)
        | cons line others =>
            rw [lineParts_cons] at own
            rcases List.mem_cons.mp own with rfl | further
            · exact congrArg Span.start placed
            · have numbered := (numbered_line_of_mem_lineParts further).2
              omega
      · apply inductionHypothesis _ other
        rwa [LooseText.scanned_append, own_scanned, rest_scanned]

/-! ## Parts with surrogates -/

theorem map_text_lineParts (token : LooseToken) (index : Nat) (before : LooseText)
    (lines : List LooseText) : (lineParts token index before lines).map Part.text = lines := by
  induction lines generalizing index before with
  | nil => rfl
  | cons line later inductionHypothesis =>
      rw [lineParts_cons, List.map_cons, inductionHypothesis]

/-- Joined lines hold a surrogate exactly if one of them does. -/
theorem isScalar_intercalate_iff {lines : List LooseText} :
    LooseText.IsScalar ([.scalar '\n'].intercalate lines) ↔ ∀ line ∈ lines, line.IsScalar := by
  induction lines with
  | nil => simp [LooseText.IsScalar]
  | cons line later inductionHypothesis =>
      cases later with
      | nil => simp
      | cons second others =>
          have lineFeed : LooseText.IsScalar [.scalar '\n'] := by decide
          rw [List.intercalate_cons_cons, LooseText.isScalar_append, LooseText.isScalar_append,
            inductionHypothesis, List.forall_mem_cons (a := line)]
          simp only [lineFeed, and_true]

/-- All parts of tokens are encoded exactly if there is no surrogate in the tokens. -/
theorem findSome?_fault?_eq_none_iff {before : LooseText} {tokens : List LooseToken} :
    (partsAfter before tokens).findSome? Part.fault? = none ↔
      (LooseToken.source tokens).IsScalar := by
  induction tokens generalizing before with
  | nil => simp [partsAfter, LooseToken.source, LooseText.IsScalar]
  | cons token later inductionHypothesis =>
      have own : (lineParts token 0 before token.text.lines).findSome? Part.fault? = none ↔
          token.text.IsScalar := by
        have by_lines := @isScalar_intercalate_iff token.text.lines
        rw [LooseText.intercalate_lines] at by_lines
        rw [by_lines, ← map_text_lineParts token 0 before token.text.lines, List.forall_mem_map,
          map_text_lineParts, List.findSome?_eq_none_iff]
        simp only [Part.fault?, LooseText.utf16Fault?_eq_none_iff]
      rw [partsAfter, List.findSome?_append, Option.or_eq_none_iff, own, inductionHypothesis,
        LooseToken.source_cons, LooseText.isScalar_append]

end Semantic

end Highlighter
