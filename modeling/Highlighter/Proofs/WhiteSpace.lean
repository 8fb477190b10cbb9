import Highlighter.Proofs.JsonFragments
import Highlighter.Proofs.JsonScan
import Highlighter.Proofs.LineScans
import Highlighter.Proofs.Openings
import Highlighter.Proofs.Words

/-!
# White space in normal form

In every language a token is white space exactly when all of its characters are blanks, and no two
such tokens are neighbours.  There are two reasons for it.  The scans that go character by
character take blanks in whole runs, so a run is followed by no other.  The scans that go line by
line lay out the blanks around the parts of a line and the line feeds one by one, and the builder
joins them.
-/

namespace Highlighter

/-- The characters that are white space in a language: all blanks in a format that is scanned line
by line, and the ASCII blanks in any other. -/
def isBlankIn : Option Language → Char → Bool
  | some .yaml | some .toml => isBlank
  | _ => isAsciiBlank

theorem isBlankIn_of_isAsciiBlank {c : Char} (blank : isAsciiBlank c = true)
    (language : Option Language) : isBlankIn language c = true := by
  unfold isBlankIn
  split
  · exact isBlank_of_isAsciiBlank blank
  · exact isBlank_of_isAsciiBlank blank
  · exact blank

/-- At most one of two neighbours is white space. -/
def NotBothWhite (first second : TokenClass) : Prop :=
  ¬(first = .whitespace ∧ second = .whitespace)

namespace Piece

/-- A piece is white space exactly when all of its characters are blanks. -/
def WhiteIffBlank (blank : Char → Bool) (piece : Piece) : Prop :=
  piece.cls = .whitespace ↔ ∀ c ∈ piece.text, blank c = true

/-- White space among pieces is what is blank, and stands apart. -/
structure WhiteApart (blank : Char → Bool) (pieces : List Piece) : Prop where
  told : ∀ piece ∈ pieces, piece.WhiteIffBlank blank
  apart : (pieces.map (·.cls)).IsChain NotBothWhite

theorem whiteIffBlank_of_blanks {blank : Char → Bool} {part : Text}
    (blanks : ∀ c ∈ part, blank c = true) : WhiteIffBlank blank ⟨.whitespace, part⟩ :=
  ⟨fun _ => blanks, fun _ => rfl⟩

/-- A piece that is no white space needs a character that is no blank. -/
theorem whiteIffBlank_of_shown {blank : Char → Bool} {piece : Piece}
    (visible : piece.cls ≠ .whitespace) {c : Char} (member : c ∈ piece.text)
    (shown : blank c = false) : piece.WhiteIffBlank blank := by
  constructor
  · exact fun white => absurd white visible
  · intro blanks
    rw [blanks c member] at shown
    contradiction

/-! ## Blanks in whole runs -/

/-- What a piece is in front of a text: a whole run of blanks, as white space, or another piece,
that starts with no blank. -/
inductive Cut (blank : Char → Bool) (after : Text) : Piece → Prop where
  | run {c : Char} {others : Text} (blanks : ∀ d ∈ c :: others, blank d = true)
      (ended : ∀ d ∈ after.head?, blank d = false) : Cut blank after ⟨.whitespace, c :: others⟩
  | shown {cls : TokenClass} {c : Char} {others : Text} (visible : cls ≠ .whitespace)
      (starts : blank c = false) : Cut blank after ⟨cls, c :: others⟩

/-- Pieces of which each is cut off in front of the ones behind it. -/
inductive AllCut (blank : Char → Bool) : List Piece → Prop where
  | nil : AllCut blank []
  | cons {piece : Piece} {later : List Piece} (cut : Cut blank (source later) piece)
      (others : AllCut blank later) : AllCut blank (piece :: later)

variable {blank : Char → Bool} {after : Text} {piece : Piece} {pieces : List Piece}

theorem Cut.whiteIffBlank (cut : Cut blank after piece) : piece.WhiteIffBlank blank := by
  cases cut with
  | run blanks ended => exact whiteIffBlank_of_blanks blanks
  | shown visible starts => exact whiteIffBlank_of_shown visible List.mem_cons_self starts

/-- The first piece of a text that starts with no blank is no white space. -/
theorem AllCut.head?_ne_whitespace (all : AllCut blank pieces)
    (starts : ∀ c ∈ (source pieces).head?, blank c = false) :
    ∀ cls ∈ (pieces.map (·.cls)).head?, cls ≠ .whitespace := by
  rintro cls first rfl
  cases all with
  | nil => contradiction
  | cons cut _ =>
      cases cut with
      | @run c _ blanks _ =>
          have shown : blank c = false := starts c rfl
          rw [blanks c List.mem_cons_self] at shown
          contradiction
      | shown visible _ => exact visible (Option.some.inj first)

/-- Blanks in whole runs stand apart, since a blank that follows a run would belong to it. -/
theorem AllCut.whiteApart (all : AllCut blank pieces) : WhiteApart blank pieces := by
  induction all with
  | nil => exact ⟨nofun, .nil⟩
  | @cons piece later cut others inductionHypothesis =>
      constructor
      · exact List.forall_mem_cons.mpr ⟨cut.whiteIffBlank, inductionHypothesis.told⟩
      · apply inductionHypothesis.apart.cons
        rintro cls next ⟨white, nextWhite⟩
        cases cut with
        | run _ ended => exact others.head?_ne_whitespace ended cls next nextWhite
        | shown visible _ => exact visible white

/-- A slice that is cut off at one place: white space where a blank stands, and then all the blanks
there. -/
theorem cut_take {c : Char} {rest : Text} {cls : TokenClass} {further : Nat}
    (white : cls = .whitespace ↔ blank c = true)
    (whole : cls = .whitespace → further + 1 = Text.countWhile blank (c :: rest)) :
    Cut blank (rest.drop further) ⟨cls, c :: rest.take further⟩ := by
  by_cases here : cls = .whitespace
  · subst here
    have taken := Text.take_countWhile blank (c :: rest)
    have left := Text.drop_countWhile blank (c :: rest)
    rw [← whole rfl] at taken left
    rw [List.take_succ_cons] at taken
    rw [List.drop_succ_cons] at left
    apply Cut.run
    · rw [taken]
      exact List.all_eq_true.mp List.all_takeWhile
    · rw [left]
      exact Text.not_belongs_of_head?_dropWhile
  · apply Cut.shown here
    rw [← Bool.not_eq_true, ← white]
    exact here

end Piece

/-! ## The scan for programming languages -/

namespace Code

variable {dialect : Dialect} {c : Char} {rest : Text} {cls : TokenClass} {further length : Nat}

/-- A rule that applies makes white space where a blank stands, and nowhere else. -/
theorem tokenClass_eq_whitespace_iff (marked : dialect.comments.StartsWithMark) {rule : ScanRule}
    (applies : rule.freshExtent dialect c rest ≠ 0) :
    rule.tokenClass = .whitespace ↔ isAsciiBlank c = true := by
  have table : ∀ opening ∈ rule.openings,
      rule.tokenClass = .whitespace ↔ opening = Opening.blank := by
    cases rule <;> decide
  rw [← Opening.of_eq_blank_iff]
  exact table _ (opening_mem_openings marked applies)

theorem Takes.whitespace_iff (takes : Takes dialect c rest cls (further + 1))
    (marked : dialect.comments.StartsWithMark) :
    cls = .whitespace ↔ isAsciiBlank c = true := by
  rcases takes.exists_rule with ⟨rule, _, rfl, extent⟩
  have applies : rule.freshExtent dialect c rest ≠ 0 := by
    rw [ScanRule.freshExtent, extent]
    exact Nat.succ_ne_zero further
  exact tokenClass_eq_whitespace_iff marked applies

theorem Takes.length_of_whitespace (takes : Takes dialect c rest .whitespace length) :
    length = Text.countWhile isAsciiBlank (c :: rest) := by
  cases takes with
  | whitespace => rfl

theorem allCut_freshPieces (marked : dialect.comments.StartsWithMark) (text : Text) :
    Piece.AllCut isAsciiBlank (freshPieces dialect ScanRule.standard text) := by
  fun_induction freshPieces dialect ScanRule.standard text with
  | case1 => exact .nil
  | case2 c rest cls further decided inductionHypothesis =>
      have takes := takes_freshSlice dialect c rest
      rw [decided] at takes
      apply Piece.AllCut.cons _ inductionHypothesis
      rw [source_freshPieces]
      apply Piece.cut_take (takes.whitespace_iff marked)
      rintro rfl
      exact takes.length_of_whitespace

end Code

/-! ## The scan for JSON -/

namespace Json

variable {closable afterWord : Bool} {aside rest : Text} {c : Char} {cls : TokenClass}
  {length : Nat}

/-- The scan for JSON finds white space where a blank stands, and nowhere else. -/
theorem lexeme?_whitespace_iff
    (found : lexeme? closable afterWord (c :: rest) = some (cls, length)) :
    cls = .whitespace ↔ isAsciiBlank c = true := by
  constructor
  · rintro rfl
    rcases lexeme?_cases found with ⟨_, _, made⟩ | ⟨made, _⟩ | ⟨made, _⟩ | ⟨made, _⟩ |
      ⟨_, rfl, filled⟩
    · split at made <;> contradiction
    · contradiction
    · contradiction
    · contradiction
    · rw [← Bool.not_eq_false]
      intro noBlank
      rw [Text.countWhile_cons_eq_zero noBlank] at filled
      contradiction
  · intro blank
    rw [lexeme?_of_blank blank] at found
    exact (congrArg Prod.fst (Option.some.inj found)).symm

theorem allCut_flush {later : List Piece} (plain : ∀ c ∈ aside, isAsciiBlank c = false)
    (all : Piece.AllCut isAsciiBlank later) : Piece.AllCut isAsciiBlank (flush aside later) := by
  unfold flush
  split
  · exact all
  · rename_i some_aside
    apply Piece.AllCut.cons _ all
    cases reversed : aside.reverse with
    | nil =>
        rw [List.reverse_eq_nil_iff.mp reversed] at some_aside
        contradiction
    | cons c others =>
        apply Piece.Cut.shown (by decide)
        apply plain
        rw [← List.mem_reverse, reversed]
        exact List.mem_cons_self

/-- The scan for JSON puts no blank aside. -/
theorem allCut_piecesFrom (plain : ∀ c ∈ aside, isAsciiBlank c = false) :
    Piece.AllCut isAsciiBlank (piecesFrom closable afterWord aside rest) := by
  fun_induction piecesFrom closable afterWord aside rest with
  | case1 => exact allCut_flush plain .nil
  | case2 closable afterWord aside c rest cls length found lexeme inductionHypothesis =>
      rcases Nat.exists_eq_add_one.mpr (lexeme?_bounds found).1 with ⟨further, rfl⟩
      apply allCut_flush plain
      apply Piece.AllCut.cons _ (inductionHypothesis (List.forall_mem_nil _))
      rw [source_piecesFrom]
      apply Piece.cut_take (lexeme?_whitespace_iff found)
      intro white
      rw [lexeme?_of_blank ((lexeme?_whitespace_iff found).mp white)] at found
      exact (congrArg Prod.snd (Option.some.inj found)).symm
  | case3 closable afterWord aside c rest found inductionHypothesis =>
      have noBlank : isAsciiBlank c = false := by
        rw [← Bool.not_eq_true]
        intro blank
        rw [lexeme?_of_blank blank] at found
        contradiction
      exact inductionHypothesis (List.forall_mem_cons.mpr ⟨noBlank, plain⟩)

end Json

/-! ## White space that is joined -/

/-- What a builder that joins white space has laid out: white space is what is blank, and stands
apart. -/
structure TokenBuilder.Joined (blank : Char → Bool) (builder : TokenBuilder) : Prop where
  merges : builder.merges = true
  whiteApart : Piece.WhiteApart blank (builder.newestFirst.map Token.piece)

namespace TokenBuilder

variable {blank : Char → Bool} {builder : TokenBuilder}

/-- A token is joined to the one before it where both are white space, and so stands apart. -/
theorem whiteApart_push {newestFirst : List Token} {token : Token}
    (laidOut : Piece.WhiteApart blank (newestFirst.map Token.piece))
    (told : token.piece.WhiteIffBlank blank) :
    Piece.WhiteApart blank ((push true token newestFirst).map Token.piece) := by
  cases newestFirst with
  | nil => exact ⟨List.forall_mem_singleton.mpr told, .singleton _⟩
  | cons previous older =>
      rcases List.forall_mem_cons.mp laidOut.told with ⟨previousTold, olderTold⟩
      simp only [push]
      split
      · rename_i both
        simp only [Bool.true_and, Bool.and_eq_true, beq_iff_eq] at both
        refine ⟨List.forall_mem_cons.mpr ⟨?_, olderTold⟩, laidOut.apart⟩
        constructor
        · intro _ c member
          rcases List.mem_append.mp member with inPrevious | inToken
          · exact previousTold.mp both.2 c inPrevious
          · exact told.mp both.1 c inToken
        · exact fun _ => both.2
      · rename_i notBoth
        constructor
        · exact List.forall_mem_cons.mpr ⟨told, laidOut.told⟩
        · apply laidOut.apart.cons_cons
          rintro ⟨white, previousWhite⟩
          apply notBoth
          rw [Bool.true_and, Bool.and_eq_true, beq_iff_eq, beq_iff_eq]
          exact ⟨white, previousWhite⟩

theorem Joined.emit (joined : builder.Joined blank) {piece : Piece}
    (told : piece.text ≠ [] → piece.WhiteIffBlank blank) : (builder.emit piece).Joined blank := by
  unfold TokenBuilder.emit
  split
  · exact joined
  · rename_i filled
    refine ⟨joined.merges, ?_⟩
    rw [joined.merges]
    apply whiteApart_push joined.whiteApart
    exact told (by simpa using filled)

theorem Joined.emitAll (joined : builder.Joined blank) {pieces : List Piece}
    (told : ∀ piece ∈ pieces, piece.text ≠ [] → piece.WhiteIffBlank blank) :
    (builder.emitAll pieces).Joined blank := by
  induction pieces generalizing builder with
  | nil => exact joined
  | cons piece later inductionHypothesis =>
      rcases List.forall_mem_cons.mp told with ⟨here, others⟩
      exact inductionHypothesis (joined.emit here) others

end TokenBuilder

/-- White space that is joined stands apart, whatever the pieces are. -/
theorem whiteApart_layout {blank : Char → Bool} {pieces : List Piece}
    (told : ∀ piece ∈ pieces, piece.text ≠ [] → piece.WhiteIffBlank blank) :
    Piece.WhiteApart blank ((Token.layout true pieces).map Token.piece) := by
  have start : (TokenBuilder.empty true).Joined blank := ⟨rfl, nofun, .nil⟩
  have laidOut := (start.emitAll told).whiteApart
  have reversed : (Token.layout true pieces).map Token.piece =
      (((TokenBuilder.empty true).emitAll pieces).newestFirst.map Token.piece).reverse :=
    List.map_reverse
  rw [reversed]
  constructor
  · exact fun piece member => laidOut.told piece (List.mem_reverse.mp member)
  · rw [List.map_reverse, List.isChain_reverse]
    exact laidOut.apart.imp fun _ _ apart both => apart both.symm

/-! ## The scans for YAML and TOML -/

theorem Text.isBlank_of_trim_eq_nil {text : Text} (vanished : text.trim = []) :
    ∀ c ∈ text, isBlank c = true := by
  intro c member
  by_contra shown
  cases first : text.firstShown? with
  | none => exact List.find?_eq_none.mp first c member (by simpa using shown)
  | some d => exact trim_ne_nil_of_firstShown? first vanished

/-- The blanks around a part are blanks, and there is none where the part between starts. -/
theorem Text.isBlank_padding (part : Text) :
    (∀ c ∈ part.padding.1, isBlank c = true) ∧
      (∀ c ∈ part.padding.2.1.head?, isBlank c = false) ∧
        ∀ c ∈ part.padding.2.2, isBlank c = true := by
  unfold padding
  split
  · rename_i vanished
    exact ⟨isBlank_of_trim_eq_nil (List.isEmpty_iff.mp vanished), nofun, nofun⟩
  · refine ⟨List.all_eq_true.mp List.all_takeWhile, part.trimmed_trim.starts, ?_⟩
    intro c member
    exact List.all_eq_true.mp List.all_takeWhile c (List.mem_reverse.mp member)

theorem whiteIffBlank_padded {cls : TokenClass} (visible : cls ≠ .whitespace) (part : Text) :
    ∀ piece ∈ padded cls part, piece.text ≠ [] → piece.WhiteIffBlank isBlank := by
  have blanks := part.isBlank_padding
  unfold padded
  generalize part.padding = parts at blanks ⊢
  rcases parts with ⟨lead, core, trail⟩
  rcases blanks with ⟨before, starts, behind⟩
  rintro piece (_ | ⟨_, _ | ⟨_, _ | ⟨_, ⟨⟩⟩⟩⟩) filled
  · exact Piece.whiteIffBlank_of_blanks before
  · rcases List.exists_cons_of_ne_nil filled with ⟨c, others, rfl⟩
    exact Piece.whiteIffBlank_of_shown visible List.mem_cons_self (starts c rfl)
  · exact Piece.whiteIffBlank_of_blanks behind

theorem whiteIffBlank_comment {line : Text} (marked : line.firstShown? = some '#') :
    Piece.WhiteIffBlank isBlank ⟨.comment, line⟩ := by
  have here : '#' ∈ line := List.mem_of_find?_eq_some marked
  apply Piece.whiteIffBlank_of_shown _ here rfl
  nofun

/-- The pieces of a line are white space where they are blank, when they are those of a key and a
value or of other content. -/
theorem LineFormat.whiteIffBlank_plain (format : LineFormat) (line : Text) :
    ∀ piece ∈
      (match line.splitAt? format.separator with
        | some (key, value) =>
            padded .property key ++ Piece.mk format.separatorClass [format.separator] ::
              padded (format.valueClass value) value
        | none => padded .identifier line),
      piece.text ≠ [] → piece.WhiteIffBlank isBlank := by
  split
  · rename_i key value _
    intro piece member filled
    rcases List.mem_append.mp member with ofKey | behind
    · exact whiteIffBlank_padded (by decide) key piece ofKey filled
    · rcases List.mem_cons.mp behind with rfl | ofValue
      · exact Piece.whiteIffBlank_of_shown format.separatorClass_ne List.mem_cons_self
          format.separator_shown
      · exact whiteIffBlank_padded (format.valueClass_ne value) value piece ofValue filled
  · exact whiteIffBlank_padded (by decide) line

theorem Yaml.whiteIffBlank_linePieces (line : Text) :
    ∀ piece ∈ linePieces line, piece.text ≠ [] → piece.WhiteIffBlank isBlank := by
  unfold linePieces
  rw [Text.head?_trimLeft]
  split
  · rename_i marked
    exact List.forall_mem_singleton.mpr fun _ => whiteIffBlank_comment marked
  · exact LineFormat.yaml.whiteIffBlank_plain line

theorem Toml.whiteIffBlank_linePieces (line : Text) :
    ∀ piece ∈ linePieces line, piece.text ≠ [] → piece.WhiteIffBlank isBlank := by
  unfold linePieces
  rw [Text.head?_trimLeft]
  split
  · rename_i marked
    exact List.forall_mem_singleton.mpr fun _ => whiteIffBlank_comment marked
  · split
    · exact whiteIffBlank_padded (by decide) line
    · exact LineFormat.toml.whiteIffBlank_plain line

/-- The pieces of lines and the line feeds between them are joined. -/
theorem whiteApart_lineTokens {linePieces : Text → List Piece}
    (told : ∀ line, ∀ piece ∈ linePieces line, piece.text ≠ [] → piece.WhiteIffBlank isBlank)
    (text : Text) : Piece.WhiteApart isBlank ((lineTokens linePieces text).map Token.piece) := by
  rw [lineTokens_eq]
  apply whiteApart_layout
  cases text.lines with
  | nil => nofun
  | cons first later =>
      intro piece member
      rcases List.mem_append.mp member with ofFirst | behind
      · exact told first piece ofFirst
      · rcases List.mem_flatMap.mp behind with ⟨line, _, ofLine⟩
        rcases List.mem_cons.mp ofLine with rfl | inLine
        · exact fun _ => Piece.whiteIffBlank_of_blanks (List.forall_mem_singleton.mpr rfl)
        · exact told line piece inLine

/-! ## Every language -/

theorem whiteApart_plainTokens (text : Text) :
    Piece.WhiteApart isAsciiBlank ((plainTokens text).map Token.piece) := by
  by_cases vanished : text = []
  · rw [vanished]
    exact ⟨nofun, .nil⟩
  · have laidOut : (plainTokens text).map Token.piece = [⟨plainClass text, text⟩] :=
      Token.map_piece_layout (List.forall_mem_singleton.mpr vanished)
    rw [laidOut]
    refine ⟨List.forall_mem_singleton.mpr ?_, .singleton _⟩
    simp [Piece.WhiteIffBlank, plainClass, vanished]

theorem Code.whiteApart_tokens {dialect : Dialect} (marked : dialect.comments.StartsWithMark)
    (text : Text) :
    Piece.WhiteApart isAsciiBlank ((tokens dialect ScanRule.standard text).map Token.piece) := by
  rw [map_piece_tokens]
  exact (allCut_freshPieces marked text).whiteApart

theorem Json.whiteApart_tokens (text : Text) :
    Piece.WhiteApart isAsciiBlank ((tokens text).map Token.piece) := by
  have all : AllInPlace [] (pieces text) :=
    allInPlace_piecesFrom rfl (bare_nil text) (Or.inl rfl)
  rw [tokens, Token.map_piece_layout all.ne_nil]
  apply Piece.AllCut.whiteApart
  apply allCut_piecesFrom
  exact List.forall_mem_nil _

/-- In every language the white space among the tokens is what is blank, and stands apart. -/
theorem whiteApart_highlight (text : Text) (language : Option Language) :
    Piece.WhiteApart (isBlankIn language) ((highlight text language).map Token.piece) := by
  cases language with
  | none => exact whiteApart_plainTokens text
  | some language =>
      cases builtIn : Dialect.ofLanguage? language with
      | some dialect =>
          rw [highlight_of_ofLanguage? builtIn]
          have ascii : isBlankIn (some language) = isAsciiBlank := by
            cases language <;> cases builtIn <;> rfl
          rw [ascii]
          exact Code.whiteApart_tokens (startsWithMark_of_ofLanguage? builtIn) text
      | none =>
          cases language <;> cases builtIn
          · exact whiteApart_plainTokens text
          · exact Json.whiteApart_tokens text
          · exact whiteApart_lineTokens Yaml.whiteIffBlank_linePieces text
          · exact whiteApart_lineTokens Toml.whiteIffBlank_linePieces text
          · exact whiteApart_plainTokens text

/-- A text of ASCII blanks is one token: each of its tokens is white space, so there are no two. -/
theorem highlight_of_blanks {text : Text} (filled : text ≠ [])
    (blanks : ∀ c ∈ text, isAsciiBlank c = true) (language : Option Language) :
    highlight text language = [⟨.whitespace, text, ⟨.start, .after text⟩⟩] := by
  have covered := partition_highlight text language
  have laidOut := whiteApart_highlight text language
  have white : ∀ piece ∈ (highlight text language).map Token.piece, piece.cls = .whitespace := by
    intro piece member
    apply (laidOut.told piece member).mpr
    intro c inPiece
    apply isBlankIn_of_isAsciiBlank
    apply blanks
    rw [← Token.PartitionAfter.source_eq covered, Token.source_eq_source_map_piece]
    exact List.mem_flatMap.mpr ⟨piece, member, inPiece⟩
  generalize highlight text language = tokens at covered laidOut white
  cases tokens with
  | nil => exact absurd covered filled
  | cons token later =>
      rcases List.forall_mem_cons.mp white with ⟨first, others⟩
      cases later with
      | nil =>
          rcases covered with ⟨_, placed, rest, rfl, ended⟩
          have last : rest = [] := ended
          rcases token with ⟨cls, written, span⟩
          obtain rfl : cls = .whitespace := first
          obtain rfl : span = ⟨.start, .after written⟩ := placed
          rw [last, List.append_nil]
      | cons second more =>
          have apart := (List.isChain_cons_cons.mp laidOut.apart).1
          exact absurd ⟨first, others _ List.mem_cons_self⟩ apart

/-- White space is in normal form in every language.  No two white-space tokens are neighbours; a
token is white space exactly when all of its characters are blanks of the language; and a text of
ASCII blanks is one token. -/
theorem white_space_in_normal_form (text : Text) (language : Option Language) :
    ((highlight text language).map (·.cls)).IsChain NotBothWhite ∧
      (∀ token ∈ highlight text language,
        token.cls = .whitespace ↔ ∀ c ∈ token.text, isBlankIn language c = true) ∧
      (text ≠ [] → (∀ c ∈ text, isAsciiBlank c = true) →
        highlight text language = [⟨.whitespace, text, ⟨.start, .after text⟩⟩]) := by
  have laidOut := whiteApart_highlight text language
  refine ⟨?_, ?_, ?_⟩
  · have apart := laidOut.apart
    rw [List.map_map] at apart
    exact apart
  · intro token member
    exact laidOut.told token.piece (List.mem_map_of_mem member)
  · intro filled blanks
    exact highlight_of_blanks filled blanks language

/-- A line feed between two blank lines is joined to the blanks around it. -/
theorem white_space_in_normal_form_lines :
    let text : Text := [' ', '\t', '\n', '\n', ' ']
    text ≠ [] ∧ (∀ c ∈ text, isAsciiBlank c = true) ∧
      highlight text (some .yaml) = [⟨.whitespace, text, ⟨⟨1, 1, 0⟩, ⟨3, 2, 5⟩⟩⟩] := by
  intro text
  have filled : text ≠ [] := List.cons_ne_nil _ _
  have blanks : ∀ c ∈ text, isAsciiBlank c = true := List.all_eq_true.mp rfl
  exact ⟨filled, blanks, (white_space_in_normal_form text (some .yaml)).2.2 filled blanks⟩

example :
    (highlight ['k', ' ', ':', '\u00a0', '\n', '\n', '\t', '#'] (some .yaml)).map Token.piece =
    [⟨.property, ['k']⟩, ⟨.whitespace, [' ']⟩, ⟨.punctuation, [':']⟩,
      ⟨.whitespace, ['\u00a0', '\n', '\n']⟩, ⟨.comment, ['\t', '#']⟩] := by
  decide

end Highlighter
