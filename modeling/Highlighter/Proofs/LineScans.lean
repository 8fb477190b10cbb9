import Highlighter.Proofs.Extent
import Highlighter.Proofs.TextLines
import Highlighter.Proofs.VisibleTokens

/-!
# The scans for YAML and TOML go line by line

White space is joined over the ends of lines, so the tokens of a text are not those of its lines
one after the other; but its visible tokens are.  A text with a line feed between two texts has
the visible tokens of the first, and then those of the second as they stand below it.

With this one equation the tokens on each line are those of the line scanned alone, and
`LineForm` says what they are.
-/

namespace Highlighter

/-! ## Lines scanned apart -/

/-- The pieces of lines with line feeds between them. -/
def joinedPieces (linePieces : Text → List Piece) : List Text → List Piece
  | [] => []
  | first :: later =>
      linePieces first ++ later.flatMap fun line => ⟨.whitespace, ['\n']⟩ :: linePieces line

theorem joinedPieces_append (linePieces : Text → List Piece) {first second : List Text}
    (some_first : first ≠ []) (some_second : second ≠ []) :
    joinedPieces linePieces (first ++ second) =
      joinedPieces linePieces first ++
        ⟨.whitespace, ['\n']⟩ :: joinedPieces linePieces second := by
  cases first with
  | nil => contradiction
  | cons line others =>
      cases second with
      | nil => contradiction
      | cons next later =>
          simp only [joinedPieces, List.cons_append, List.flatMap_append, List.flatMap_cons,
            List.append_assoc]

theorem lineTokens_eq (linePieces : Text → List Piece) (text : Text) :
    lineTokens linePieces text = Token.layout true (joinedPieces linePieces text.lines) := by
  unfold lineTokens
  split
  · rename_i none_left
    exact absurd none_left text.lines_ne_nil
  · rename_i first later cut
    rw [cut, joinedPieces]

section

variable {linePieces : Text → List Piece} (kept : ∀ line, Piece.source (linePieces line) = line)

include kept

theorem source_joinedPieces (text : Text) :
    Piece.source (joinedPieces linePieces text.lines) = text := by
  have laidOut := (Token.partition_layout true (joinedPieces linePieces text.lines)).source_eq
  rw [← laidOut, ← lineTokens_eq]
  exact (partition_lineTokens kept text).source_eq

/-- The visible tokens of two texts with a line feed between them are those of the first, and
those of the second as they stand below it. -/
theorem visible_lineTokens_append (above below : Text) :
    Token.visible (lineTokens linePieces (above ++ '\n' :: below)) =
      Token.visible (lineTokens linePieces above) ++
        (Token.visible (lineTokens linePieces below)).map (Token.below above) := by
  simp only [lineTokens_eq, Token.visible_layout]
  rw [Text.lines_append, joinedPieces_append _ above.lines_ne_nil below.lines_ne_nil,
    Piece.visibleFrom_append, source_joinedPieces kept, List.nil_append, Piece.visibleFrom]
  have hidden : Piece.isVisible ⟨.whitespace, ['\n']⟩ = false := rfl
  rw [hidden, if_neg Bool.false_ne_true, List.nil_append, Piece.visibleFrom_below]

end

/-! ## The form of a line -/

/-- How the lines of a format are written, and the classes of what stands on them. -/
structure LineFormat where
  /-- Whether a line can be a heading. -/
  headed : Bool
  /-- What stands between a key and its value. -/
  separator : Char
  separatorClass : TokenClass
  valueClass : Text → TokenClass
  separator_shown : isBlank separator = false
  separatorClass_ne : separatorClass ≠ .whitespace
  valueClass_ne : ∀ value, valueClass value ≠ .whitespace

/-- A text that neither starts nor ends with a blank. -/
structure Text.Trimmed (part : Text) : Prop where
  starts : ∀ c ∈ part.head?, isBlank c = false
  ends : ∀ c ∈ part.getLast?, isBlank c = false

/-- A piece that lies on one line and, unless it is a comment, has no blanks around it. -/
structure Piece.Neat (piece : Piece) : Prop where
  unbroken : '\n' ∉ piece.text
  trimmed : piece.cls ≠ .comment → piece.text.Trimmed

/-- The first character of a text that is no blank. -/
def Text.firstShown? (text : Text) : Option Char :=
  text.find? (!isBlank ·)

/-- What is left of a part without the blanks around it, if anything is. -/
def Piece.trimmed (cls : TokenClass) (part : Text) : List Piece :=
  if part.trim = [] then [] else [⟨cls, part.trim⟩]

namespace LineFormat

variable (format : LineFormat)

/-- A line that is neither a comment nor a heading. -/
structure Plain (line : Text) : Prop where
  uncommented : line.firstShown? ≠ some '#'
  unheaded : format.headed = true → line.firstShown? ≠ some '['

/-- The visible pieces of a line. -/
inductive LineForm (line : Text) : List Piece → Prop where
  | comment (marked : line.firstShown? = some '#') : LineForm line [⟨.comment, line⟩]
  | heading (headed : format.headed = true) (marked : line.firstShown? = some '[') :
      LineForm line [⟨.type, line.trim⟩]
  | keyValue {key value : Text} (plain : format.Plain line)
      (split : line = key ++ format.separator :: value) (first : format.separator ∉ key) :
      LineForm line
        (Piece.trimmed .property key ++ ⟨format.separatorClass, [format.separator]⟩ ::
          Piece.trimmed (format.valueClass value) value)
  | content (plain : format.Plain line) (absent : format.separator ∉ line) :
      LineForm line (Piece.trimmed .identifier line)

end LineFormat

namespace Text

theorem trim_prefix_trimLeft (text : Text) : text.trim <+: text.trimLeft := by
  have behind := List.reverse_prefix.mpr (List.dropWhile_suffix isBlank (l := text.trimLeft.reverse))
  rwa [List.reverse_reverse] at behind

theorem trimmed_trim (text : Text) : text.trim.Trimmed := by
  constructor
  · intro c first
    obtain ⟨behind, split⟩ := text.trim_prefix_trimLeft
    have starts : text.trimLeft.head? = some c := by
      rw [← split, List.head?_append, first]
      rfl
    exact not_belongs_of_head?_dropWhile c starts
  · intro c last
    rw [trim, trimRight, List.getLast?_reverse] at last
    exact not_belongs_of_head?_dropWhile c last

theorem mem_of_mem_trim {text : Text} {c : Char} (member : c ∈ text.trim) : c ∈ text :=
  (List.dropWhile_suffix isBlank).mem (text.trim_prefix_trimLeft.mem member)

theorem head?_trimLeft (text : Text) : text.trimLeft.head? = text.firstShown? :=
  (List.find?_not_eq_head?_dropWhile isBlank text).symm

theorem trim_ne_nil_of_firstShown? {text : Text} {c : Char} (shown : text.firstShown? = some c) :
    text.trim ≠ [] := by
  intro vanished
  have blanks := List.dropWhile_eq_nil_iff.mp (List.reverse_eq_nil_iff.mp vanished)
  have here : c ∈ text.trimLeft := by
    apply List.mem_of_head?
    rw [head?_trimLeft, shown]
  have blank := blanks c (List.mem_reverse.mpr here)
  have unblank := List.find?_some shown
  rw [blank] at unblank
  contradiction

end Text

theorem visible_padded {cls : TokenClass} (shown : cls ≠ .whitespace) (part : Text) :
    (padded cls part).filter Piece.isVisible = Piece.trimmed cls part := by
  unfold padded Text.padding Piece.trimmed
  by_cases vanished : part.trim = []
  · simp [vanished, Piece.isVisible]
  · simp [vanished, Piece.isVisible, shown, List.filter_cons]

theorem Piece.neat_of_mem_trimmed {cls : TokenClass} {part : Text} (unbroken : '\n' ∉ part) :
    ∀ piece ∈ trimmed cls part, piece.Neat := by
  unfold trimmed
  split
  · nofun
  · rintro piece (_ | ⟨_, ⟨⟩⟩)
    constructor
    · exact fun member => unbroken (Text.mem_of_mem_trim member)
    · exact fun _ => part.trimmed_trim

namespace LineFormat

variable {format : LineFormat} {line : Text}

/-- The pieces of a line that is split at the separator, if it has one. -/
theorem lineForm_of_plain (plain : format.Plain line) :
    format.LineForm line
      ((match line.splitAt? format.separator with
        | some (key, value) =>
            padded .property key ++ Piece.mk format.separatorClass [format.separator] ::
              padded (format.valueClass value) value
        | none => padded .identifier line).filter Piece.isVisible) := by
  by_cases present : format.separator ∈ line
  · obtain ⟨key, value, rfl, first⟩ := List.eq_append_cons_of_mem present
    have shown : Piece.isVisible ⟨format.separatorClass, [format.separator]⟩ = true := by
      simp [Piece.isVisible, format.separatorClass_ne]
    rw [Text.splitAt?_append first]
    simp only
    rw [List.filter_append, List.filter_cons_of_pos shown, visible_padded (by decide),
      visible_padded (format.valueClass_ne value)]
    exact .keyValue plain rfl first
  · have unsplit : line.splitAt? format.separator = none := by
      cases split : line.splitAt? format.separator with
      | none => rfl
      | some parts =>
          apply absurd _ present
          rw [← Text.append_of_splitAt? split]
          exact List.mem_append_right _ List.mem_cons_self
    rw [unsplit]
    simp only
    rw [visible_padded (by decide)]
    exact .content plain present

theorem lineForm_of_comment (marked : line.firstShown? = some '#') :
    format.LineForm line ([Piece.mk .comment line].filter Piece.isVisible) := by
  have shown : Piece.isVisible ⟨.comment, line⟩ = true := by
    cases line with
    | nil => contradiction
    | cons => rfl
  rw [List.filter_cons_of_pos shown]
  exact .comment marked

theorem lineForm_of_heading (headed : format.headed = true) (marked : line.firstShown? = some '[') :
    format.LineForm line ((padded .type line).filter Piece.isVisible) := by
  rw [visible_padded (by decide), Piece.trimmed, if_neg (Text.trim_ne_nil_of_firstShown? marked)]
  exact .heading headed marked

theorem neat_separator (unbroken : '\n' ≠ format.separator) :
    Piece.Neat ⟨format.separatorClass, [format.separator]⟩ := by
  constructor
  · rw [List.mem_singleton]
    exact unbroken
  · intro _
    constructor
    all_goals
      rintro c ⟨⟩
      exact format.separator_shown

/-- The pieces of a line neither go over its end nor, comments apart, have blanks around them. -/
theorem LineForm.neat {pieces : List Piece} (form : format.LineForm line pieces)
    (unbroken : '\n' ∉ line) : ∀ piece ∈ pieces, piece.Neat := by
  cases form with
  | comment =>
      rintro piece (_ | ⟨_, ⟨⟩⟩)
      exact ⟨unbroken, fun other => absurd rfl other⟩
  | heading =>
      rintro piece (_ | ⟨_, ⟨⟩⟩)
      constructor
      · exact fun member => unbroken (Text.mem_of_mem_trim member)
      · exact fun _ => line.trimmed_trim
  | @keyValue key value _ split _ =>
      rw [split, List.mem_append, List.mem_cons, not_or, not_or] at unbroken
      obtain ⟨inKey, inSeparator, inValue⟩ := unbroken
      intro piece member
      rcases List.mem_append.mp member with ofKey | behind
      · exact Piece.neat_of_mem_trimmed inKey piece ofKey
      · rcases List.mem_cons.mp behind with rfl | ofValue
        · exact neat_separator inSeparator
        · exact Piece.neat_of_mem_trimmed inValue piece ofValue
  | content => exact Piece.neat_of_mem_trimmed unbroken

end LineFormat

/-! ## The tokens on each line -/

/-- The visible tokens that start on a line, counted from one. -/
def Token.onLine (number : Nat) (tokens : List Token) : List Token :=
  (visible tokens).filter (·.span.start.line == number)

/-- A token of a text starts on one of its lines. -/
theorem Token.Partition.line_bounds {text : Text} {tokens : List Token}
    (covered : Partition text tokens) :
    ∀ token ∈ tokens, 1 ≤ token.span.start.line ∧ token.span.start.line ≤ text.count '\n' + 1 := by
  intro token member
  obtain ⟨earlier, later, rfl⟩ := List.append_of_mem member
  have stands := PartitionAfter.standsIn covered
  have line_eq : token.span.start.line = (source earlier).count '\n' + 1 := by
    rw [stands.span_eq]
    rfl
  have count_le : (source earlier).count '\n' ≤ text.count '\n' := by
    rw [← List.nil_append text, stands.split, List.count_append]
    exact Nat.le_add_right _ _
  omega

/-- Below a text, the tokens of a line are on a later one. -/
theorem Token.filter_map_below (above : Text) (number : Nat) (tokens : List Token) :
    (tokens.map (below above)).filter (·.span.start.line == number + (above.count '\n' + 1)) =
      (tokens.filter (·.span.start.line == number)).map (below above) := by
  rw [List.filter_map]
  congr 1
  apply List.filter_congr
  intro token _
  rw [Bool.eq_iff_iff]
  simp [below, Position.below]

section

variable {linePieces : Text → List Piece} (kept : ∀ line, Piece.source (linePieces line) = line)

include kept

/-- A text without line feeds has its tokens on the first line. -/
theorem line_eq_one {line : Text} (unbroken : '\n' ∉ line) :
    ∀ token ∈ Token.visible (lineTokens linePieces line), token.span.start.line = 1 := by
  intro token member
  obtain ⟨first, last⟩ :=
    (partition_lineTokens kept line).line_bounds token (List.mem_filter.mp member).1
  rw [List.count_eq_zero.mpr unbroken] at last
  omega

theorem onLine_of_ne_one {line : Text} (unbroken : '\n' ∉ line) {number : Nat}
    (other : number ≠ 1) : Token.onLine number (lineTokens linePieces line) = [] := by
  apply List.filter_eq_nil_iff.mpr
  intro token member same
  rw [line_eq_one kept unbroken token member, beq_iff_eq] at same
  exact other same.symm

theorem onLine_zero (text : Text) : Token.onLine 0 (lineTokens linePieces text) = [] := by
  apply List.filter_eq_nil_iff.mpr
  intro token member same
  obtain ⟨first, _⟩ :=
    (partition_lineTokens kept text).line_bounds token (List.mem_filter.mp member).1
  rw [beq_iff_eq.mp same] at first
  contradiction

theorem map_piece_onLine_one {line : Text} (unbroken : '\n' ∉ line) :
    (Token.onLine 1 (lineTokens linePieces line)).map Token.piece =
      (linePieces line).filter Piece.isVisible := by
  have whole : Token.onLine 1 (lineTokens linePieces line) =
      Token.visible (lineTokens linePieces line) := by
    apply List.filter_eq_self.mpr
    intro token member
    rw [line_eq_one kept unbroken token member]
    rfl
  rw [whole, lineTokens_eq, Token.visible_layout, Text.lines_of_unbroken unbroken, joinedPieces,
    List.flatMap_nil, List.append_nil, Piece.map_piece_visibleFrom]

theorem onLine_append {first : Text} (unbroken : '\n' ∉ first) (rest : Text) (number : Nat) :
    Token.onLine (number + 1) (lineTokens linePieces (first ++ '\n' :: rest)) =
      Token.onLine (number + 1) (lineTokens linePieces first) ++
        (Token.onLine number (lineTokens linePieces rest)).map (Token.below first) := by
  have counted := Token.filter_map_below first number
    (Token.visible (lineTokens linePieces rest))
  rw [List.count_eq_zero.mpr unbroken] at counted
  rw [Token.onLine, visible_lineTokens_append kept, List.filter_append, counted]
  rfl

/-- The tokens on a line are those of the line scanned alone: a line is either the last one, or
the rest of the text stands below it. -/
theorem map_piece_onLine {text line : Text} {number : Nat}
    (here : text.lines[number]? = some line) :
    (Token.onLine (number + 1) (lineTokens linePieces text)).map Token.piece =
      (linePieces line).filter Piece.isVisible := by
  induction text using Text.inductionOnLines generalizing number with
  | last only unbroken =>
      rw [Text.lines_of_unbroken unbroken] at here
      cases number with
      | zero =>
          rw [← Option.some.inj here]
          exact map_piece_onLine_one kept unbroken
      | succ earlier => contradiction
  | broken first rest unbroken inductionHypothesis =>
      rw [Text.lines_append_lineFeed unbroken] at here
      rw [onLine_append kept unbroken, List.map_append, List.map_map]
      -- the first line holds what the first text has, and no other line does
      cases number with
      | zero =>
          rw [← Option.some.inj here, onLine_zero kept, List.map_nil, List.append_nil]
          exact map_piece_onLine_one kept unbroken
      | succ earlier =>
          have later : earlier + 1 + 1 ≠ 1 := by omega
          rw [onLine_of_ne_one kept unbroken later, List.map_nil, List.nil_append]
          exact inductionHypothesis here

end

/-! ## Both formats -/

/-- A scan goes line by line in a format. -/
structure LineFormat.Scans (format : LineFormat) (tokens : Text → List Token) : Prop where
  /-- Of two texts with a line feed between them the tokens come one after the other. -/
  append : ∀ above below : Text, Token.visible (tokens (above ++ '\n' :: below)) =
    Token.visible (tokens above) ++ (Token.visible (tokens below)).map (Token.below above)
  /-- The tokens on a line are those that the line has by itself. -/
  form : ∀ (text : Text) (number : Nat) (line : Text), text.lines[number]? = some line →
    format.LineForm line ((Token.onLine (number + 1) (tokens text)).map Token.piece)
  /-- No token goes over the end of a line, and only comments have blanks around them. -/
  neat : ∀ text, ∀ token ∈ Token.visible (tokens text), token.piece.Neat

/-- A scan that joins lines goes line by line when the pieces of a line are what they should. -/
theorem LineFormat.scans_lineTokens {format : LineFormat} {linePieces : Text → List Piece}
    (kept : ∀ line, Piece.source (linePieces line) = line)
    (forms : ∀ line, format.LineForm line ((linePieces line).filter Piece.isVisible)) :
    format.Scans (lineTokens linePieces) where
  append := visible_lineTokens_append kept
  form text number line here := by
    rw [map_piece_onLine kept here]
    exact forms line
  neat text token member := by
    obtain ⟨first, last⟩ :=
      (partition_lineTokens kept text).line_bounds token (List.mem_filter.mp member).1
    obtain ⟨number, onLine⟩ := Nat.exists_eq_add_one.mpr first
    rw [← Text.length_lines, onLine] at last
    have here : text.lines[number]? = some text.lines[number] := List.getElem?_eq_getElem last
    have form := forms text.lines[number]
    rw [← map_piece_onLine kept here] at form
    apply form.neat (Text.lineFeed_not_mem_of_mem_lines (List.mem_of_getElem? here))
    apply List.mem_map_of_mem
    exact List.mem_filter.mpr ⟨member, beq_iff_eq.mpr onLine⟩

/-- YAML: keys and values with a colon between them. -/
def LineFormat.yaml : LineFormat where
  headed := false
  separator := ':'
  separatorClass := .punctuation
  valueClass := Yaml.valueClass
  separator_shown := by decide
  separatorClass_ne := by decide
  valueClass_ne := by
    intro value
    simp only [Yaml.valueClass]
    repeat' split
    all_goals decide

/-- TOML: headings in brackets, and keys and values with an equals sign between them. -/
def LineFormat.toml : LineFormat where
  headed := true
  separator := '='
  separatorClass := .operator
  valueClass := fun _ => .string
  separator_shown := by decide
  separatorClass_ne := by decide
  valueClass_ne := by
    intro value
    decide

theorem Yaml.lineForm_linePieces (line : Text) :
    LineFormat.yaml.LineForm line ((linePieces line).filter Piece.isVisible) := by
  unfold linePieces
  rw [Text.head?_trimLeft]
  split
  · rename_i marked
    exact LineFormat.lineForm_of_comment marked
  · rename_i uncommented
    exact LineFormat.lineForm_of_plain ⟨uncommented, nofun⟩

theorem Toml.lineForm_linePieces (line : Text) :
    LineFormat.toml.LineForm line ((linePieces line).filter Piece.isVisible) := by
  unfold linePieces
  rw [Text.head?_trimLeft]
  split
  · rename_i marked
    exact LineFormat.lineForm_of_comment marked
  · rename_i uncommented
    split
    · rename_i marked
      exact LineFormat.lineForm_of_heading rfl marked
    · rename_i unheaded
      exact LineFormat.lineForm_of_plain ⟨uncommented, fun _ => unheaded⟩

/-- The scans for YAML and TOML go line by line. -/
theorem lines_scanned_apart :
    LineFormat.yaml.Scans Yaml.tokens ∧ LineFormat.toml.Scans Toml.tokens :=
  ⟨LineFormat.scans_lineTokens Yaml.source_linePieces Yaml.lineForm_linePieces,
    LineFormat.scans_lineTokens Toml.source_linePieces Toml.lineForm_linePieces⟩

example : (Token.visible (Yaml.tokens ['a', ':', ' ', '\n', '\u00a0', 'b'])).map Token.piece =
    [⟨.property, ['a']⟩, ⟨.punctuation, [':']⟩, ⟨.identifier, ['b']⟩] := by
  decide

end Highlighter
