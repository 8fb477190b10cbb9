import Highlighter.Proofs.EscapeParity
import Highlighter.Proofs.NumeralGrammar
import Highlighter.Proofs.Places
import Highlighter.Proofs.StandardRules

/-!
# Where strings and comments end

`Quote.Delimits` and `CommentStyle.Delimits` say what the text of a string or of a comment is, in
front of a given rest, without any search: a string ends with the first quote that closes it, and
without one with the text or the line; a comment ends with the line, with the first closing mark
behind its opening one, or with the text.

The rules for strings and comments take exactly such texts.  Since they come first, every quote
of a text lies in one of their tokens, and no other token starts where a comment could.
-/

namespace Highlighter

/-! ## Delimited texts -/

/-- A line ends in front of a text: the text is empty or starts with a line feed. -/
def EndsLine (after : Text) : Prop :=
  ∀ c ∈ after.head?, c = '\n'

/-- A text is the string of a quote in front of what follows it. -/
inductive Quote.Delimits (quote : Quote) : Text → Text → Prop where
  /-- The first quote that closes the string ends it. -/
  | closed {inside after : Text} (closes : quote.Closes inside) :
      Delimits quote (quote.mark :: (inside ++ [quote.mark])) after
  /-- A template without an end goes on to the end of the text. -/
  | template {inside : Text} (opened : quote = .backtick) (unclosable : quote.Unclosable inside) :
      Delimits quote (quote.mark :: inside) []
  /-- Another string without an end goes on to the end of the line. -/
  | line {inside after : Text} (opened : quote ≠ .backtick)
      (unclosable : quote.Unclosable (inside ++ after)) (unbroken : '\n' ∉ inside)
      (ended : EndsLine after) : Delimits quote (quote.mark :: inside) after

/-- A text is a comment in front of what follows it. -/
inductive CommentStyle.Delimits (style : CommentStyle) : Text → Text → Prop where
  /-- A marked comment goes on to the end of the line. -/
  | line {text after : Text} (marked : style.lineMarker <+: text) (unbroken : '\n' ∉ text)
      (ended : EndsLine after) : Delimits style text after
  /-- The first closing mark behind the opening one ends a block. -/
  | block {inside after : Text} (enabled : style.blocks = true)
      (first : ¬['*', '/'] <:+: inside ++ ['*']) :
      Delimits style ('/' :: '*' :: (inside ++ ['*', '/'])) after
  /-- A block without an end goes on to the end of the text. -/
  | unclosed {inside : Text} (enabled : style.blocks = true) (absent : ¬['*', '/'] <:+: inside) :
      Delimits style ('/' :: '*' :: inside) []

namespace Text

/-! ## Lines and first occurrences -/

theorem lineFeed_not_mem_take_lineLength (text : Text) : '\n' ∉ text.take text.lineLength := by
  rw [lineLength, take_countWhile]
  intro member
  have passed := List.all_eq_true.mp List.all_takeWhile '\n' member
  simp at passed

theorem endsLine_drop_lineLength (text : Text) : EndsLine (text.drop text.lineLength) := by
  rw [lineLength, drop_countWhile]
  intro c first
  have stopped := not_belongs_of_head?_dropWhile c first
  simpa using stopped

/-- The search for a part finds its first occurrence. -/
theorem first_of_lengthThrough? {part text : Text} (filled : part ≠ []) {length : Nat}
    (found : lengthThrough? part text = some length) :
    ∃ inside after, text = inside ++ (part ++ after) ∧ length = inside.length + part.length ∧
      ¬part <:+: (inside ++ part).dropLast := by
  induction text generalizing length with
  | nil =>
      unfold lengthThrough? at found
      split at found
      · rename_i vanished
        exact absurd (List.isEmpty_iff.mp vanished) filled
      · contradiction
  | cons c rest inductionHypothesis =>
      unfold lengthThrough? at found
      split at found
      · rename_i here
        obtain ⟨after, split⟩ := List.isPrefixOf_iff_prefix.mp here
        refine ⟨[], after, split.symm, ?_, ?_⟩
        · rw [← Option.some.inj found, List.length_nil, Nat.zero_add]
        · intro earlier
          have shorter := earlier.length_le
          have positive := List.length_pos_iff.mpr filled
          rw [List.nil_append, List.length_dropLast] at shorter
          omega
      · rename_i notHere
        obtain ⟨shorter, laterFound, rfl⟩ := Option.map_eq_some_iff.mp found
        obtain ⟨inside, after, rfl, rfl, first⟩ := inductionHypothesis laterFound
        refine ⟨c :: inside, after, rfl, Nat.add_right_comm _ _ _, ?_⟩
        intro earlier
        have someLeft : inside ++ part ≠ [] := List.append_ne_nil_of_right_ne_nil inside filled
        rw [List.cons_append, List.dropLast_cons_of_ne_nil someLeft, List.infix_cons_iff] at earlier
        rcases earlier with starts | later
        · apply notHere
          rw [List.isPrefixOf_iff_prefix, ← List.append_assoc]
          apply starts.trans
          apply (List.prefix_cons_inj c).mpr
          exact (List.dropLast_prefix _).trans (List.prefix_append _ _)
        · exact first later

theorem lengthThrough?_eq_none_iff {part text : Text} (filled : part ≠ []) :
    lengthThrough? part text = none ↔ ¬part <:+: text := by
  induction text with
  | nil =>
      rw [lengthThrough?, if_neg (by simpa using filled), List.infix_nil]
      exact iff_of_true rfl filled
  | cons c rest inductionHypothesis =>
      rw [List.infix_cons_iff, not_or, ← List.isPrefixOf_iff_prefix]
      unfold lengthThrough?
      split
      · rename_i here
        exact iff_of_false nofun (fun both => both.1 here)
      · rename_i notHere
        rw [Option.map_eq_none_iff, inductionHypothesis]
        exact (and_iff_right notHere).symm

end Text

/-! ## What the rules take -/

/-- The rule for strings takes a string of the quote that starts the text. -/
theorem Quote.delimits_take (quote : Quote) (rest : Text) :
    let text := quote.mark :: rest
    let length := (quote.stringLength? text).getD (quote.openLength rest)
    quote.Delimits (text.take length) (text.drop length) := by
  intro text length
  cases found : quote.stringLength? text with
  | some closed =>
      have extent : length = closed := by
        simp only [length, found, Option.getD_some]
      obtain ⟨inside, after, _, closes, taken, left⟩ := closes_of_stringLength? found
      rw [extent, taken, left]
      exact .closed closes
  | none =>
      have extent : length = quote.openLength rest := by
        simp only [length, found, Option.getD_none]
      have unclosable : quote.Unclosable rest := stringLength?_mark_eq_none_iff.mp found
      rw [extent]
      by_cases opened : quote = .backtick
      · have whole : quote.openLength rest = text.length := by
          rw [opened]
          rfl
        rw [whole, List.take_length, List.drop_length]
        exact .template opened unclosable
      · have toLineEnd : quote.openLength rest = rest.lineLength + 1 := by
          cases quote <;> first | rfl | exact absurd rfl opened
        rw [toLineEnd, List.take_succ_cons, List.drop_succ_cons]
        apply Quote.Delimits.line opened
        · rw [List.take_append_drop]
          exact unclosable
        · exact rest.lineFeed_not_mem_take_lineLength
        · exact rest.endsLine_drop_lineLength

namespace CommentStyle

variable {style : CommentStyle}

/-- A line marker stays whole up to the end of its line. -/
theorem prefix_take_lineLength {marker text : Text} (unbroken : '\n' ∉ marker)
    (marked : marker <+: text) : marker <+: text.take text.lineLength := by
  obtain ⟨rest, rfl⟩ := marked
  have passed : ∀ c ∈ marker, (c != '\n') = true := by
    intro c member
    rw [bne_iff_ne]
    rintro rfl
    exact unbroken member
  rw [Text.lineLength, Text.take_countWhile, List.takeWhile_append_of_pos passed]
  exact List.prefix_append _ _

/-- The rule for comments takes a line, or a block with or without an end. -/
theorem commentLength_cases {text : Text} (marked : ScanRule.commentLength style text ≠ 0) :
    (style.lineMarker <+: text ∧ ScanRule.commentLength style text = text.lineLength) ∨
      style.blocks = true ∧
        ((∃ inside after, text = ('/' :: '*' :: (inside ++ ['*', '/'])) ++ after ∧
            ScanRule.commentLength style text = ('/' :: '*' :: (inside ++ ['*', '/'])).length ∧
              ¬['*', '/'] <:+: inside ++ ['*']) ∨
          ∃ inside, text = '/' :: '*' :: inside ∧
            ScanRule.commentLength style text = text.length ∧ ¬['*', '/'] <:+: inside) := by
  unfold ScanRule.commentLength at marked ⊢
  split
  · rename_i line
    exact Or.inl ⟨List.isPrefixOf_iff_prefix.mp line, rfl⟩
  · right
    split
    · rename_i block
      obtain ⟨enabled, opened⟩ := Bool.and_eq_true_iff.mp block
      obtain ⟨rest, rfl⟩ := List.isPrefixOf_iff_prefix.mp opened
      have filled : ['*', '/'] ≠ ([] : Text) := List.cons_ne_nil _ _
      have behind : (['/', '*'] ++ rest).drop 2 = rest := rfl
      refine ⟨enabled, ?_⟩
      rw [behind]
      cases found : Text.lengthThrough? ['*', '/'] rest with
      | none =>
          exact Or.inr ⟨rest, rfl, rfl, (Text.lengthThrough?_eq_none_iff filled).mp found⟩
      | some length =>
          obtain ⟨inside, after, rfl, rfl, first⟩ := Text.first_of_lengthThrough? filled found
          have cut : (inside ++ ['*', '/']).dropLast = inside ++ ['*'] :=
            List.dropLast_append_of_ne_nil filled
          rw [cut] at first
          exact Or.inl ⟨inside, after, by simp, by simp, first⟩
    · rename_i noLine noBlock
      rw [if_neg noLine, if_neg noBlock] at marked
      exact absurd rfl marked

/-- The rule for comments takes a comment. -/
theorem delimits_take {text : Text} (unbroken : '\n' ∉ style.lineMarker)
    (marked : ScanRule.commentLength style text ≠ 0) :
    style.Delimits (text.take (ScanRule.commentLength style text))
      (text.drop (ScanRule.commentLength style text)) := by
  rcases commentLength_cases marked with
    ⟨line, extent⟩ | ⟨enabled, ⟨inside, after, rfl, extent, first⟩ | ⟨inside, rfl, extent, absent⟩⟩
  · rw [extent]
    apply Delimits.line
    · exact prefix_take_lineLength unbroken line
    · exact text.lineFeed_not_mem_take_lineLength
    · exact text.endsLine_drop_lineLength
  · rw [extent, List.take_left, List.drop_left]
    exact .block enabled first
  · rw [extent, List.take_length, List.drop_length]
    exact .unclosed enabled absent

end CommentStyle

namespace Code

variable {dialect : Dialect} {c : Char} {rest : Text} {cls : TokenClass} {length : Nat}

/-- What the rules take as a string is a string. -/
theorem Takes.delimits_string (takes : Takes dialect c rest .string length) :
    ∃ quote : Quote, quote.Delimits ((c :: rest).take length) ((c :: rest).drop length) := by
  cases takes with
  | @string quote opened =>
      subst opened
      exact ⟨quote, quote.delimits_take rest⟩

/-- What the rules take as a comment is a comment. -/
theorem Takes.delimits_comment (unbroken : '\n' ∉ dialect.comments.lineMarker)
    (takes : Takes dialect c rest .comment length) :
    dialect.comments.Delimits ((c :: rest).take length) ((c :: rest).drop length) := by
  cases takes with
  | comment _ marked => exact CommentStyle.delimits_take unbroken marked

/-- A quote is no word character, no blank, and not part of a numeral. -/
theorem mark_unlike (quote : Quote) :
    isWordChar quote.mark = false ∧ isAsciiBlank quote.mark = false ∧
      quote.mark ∉ Numeral.marks := by
  cases quote <;> decide

/-- Only strings and comments hold quotes. -/
theorem Takes.string_or_comment (takes : Takes dialect c rest cls length) {quote : Quote}
    (held : quote.mark ∈ (c :: rest).take length) : cls = .string ∨ cls = .comment := by
  obtain ⟨noWord, noBlank, noNumeral⟩ := mark_unlike quote
  have outside {belongs : Char → Bool} (unlike : belongs quote.mark = false)
      (inside : quote.mark ∈ (c :: rest).take (Text.countWhile belongs (c :: rest))) : False := by
    rw [Text.take_countWhile] at inside
    have passed := List.all_eq_true.mp List.all_takeWhile _ inside
    rw [unlike] at passed
    contradiction
  cases takes with
  | string => exact Or.inl rfl
  | comment => exact Or.inr rfl
  | keyword | type | functionCall | identifier => exact absurd held (outside noWord)
  | number starts numbered =>
      have numeral := (Numeral.separate_take numbered).isNumeral
      rcases numeral.mem _ held with digit | sign
      · rw [isDigit_eq_false noWord] at digit
        contradiction
      · exact absurd sign noNumeral
  | punctuation plain _ _ =>
      rw [List.take_one, List.head?_cons, Option.toList_some, List.mem_singleton] at held
      exact absurd held.symm (plain.unquoted quote)
  | whitespace => exact absurd held (outside noBlank)

end Code

namespace CommentStyle

/-- The line marker of a style of comments stays on one line and starts with no quote. -/
structure Proper (style : CommentStyle) : Prop where
  unbroken : '\n' ∉ style.lineMarker
  opens : ∃ first later, style.lineMarker = first :: later ∧ ∀ quote : Quote, first ≠ quote.mark

theorem proper_of_ofLanguage? {language : Language} {dialect : Dialect}
    (builtIn : Dialect.ofLanguage? language = some dialect) : dialect.comments.Proper := by
  cases language <;> cases builtIn
  all_goals
    constructor
    · decide
    · refine ⟨_, _, rfl, ?_⟩
      intro quote
      cases quote <;> decide

variable {style : CommentStyle} {c : Char} {rest : Text}

/-- The rule for comments applies where a marker or an enabled block starts. -/
theorem commentLength_ne_zero (proper : style.Proper)
    (marked : style.lineMarker <+: c :: rest ∨ style.blocks = true ∧ ['/', '*'] <+: c :: rest) :
    ScanRule.commentLength style (c :: rest) ≠ 0 := by
  unfold ScanRule.commentLength
  split
  · rename_i line
    obtain ⟨first, later, opens, _⟩ := proper.opens
    have starts := List.isPrefixOf_iff_prefix.mp line
    rw [opens, List.cons_prefix_cons] at starts
    have unbroken : c ≠ '\n' := by
      rintro rfl
      apply proper.unbroken
      rw [opens, starts.1]
      exact List.mem_cons_self
    exact Text.countWhile_cons_ne_zero (by simpa using unbroken) rest
  · rename_i noLine
    have block := marked.resolve_left fun line => noLine (List.isPrefixOf_iff_prefix.mpr line)
    rw [if_pos (by simpa using block)]
    split <;> exact Nat.succ_ne_zero _

end CommentStyle

namespace Code

variable {dialect : Dialect} {c : Char} {rest : Text} {cls : TokenClass} {length : Nat}

/-- Where the rules take no comment, neither a marker nor an enabled block starts. -/
theorem Takes.unmarked (takes : Takes dialect c rest cls length) (proper : dialect.comments.Proper)
    (noComment : cls ≠ .comment) :
    ¬dialect.comments.lineMarker <+: c :: rest ∧
      ¬(dialect.comments.blocks = true ∧ ['/', '*'] <+: c :: rest) := by
  rw [← not_or]
  intro marked
  have applies := CommentStyle.commentLength_ne_zero proper marked
  cases takes with
  | @string quote opened =>
      rcases marked with line | ⟨_, block⟩
      · obtain ⟨first, later, opens, unquoted⟩ := proper.opens
        rw [opens, List.cons_prefix_cons] at line
        exact unquoted quote (line.1.trans opened)
      · have slash := (List.cons_prefix_cons.mp block).1
        rw [opened] at slash
        cases quote <;> contradiction
  | comment => exact noComment rfl
  | keyword starts | type starts => exact applies starts.uncommented
  | number starts | functionCall starts | identifier starts => exact applies starts.uncommented
  | punctuation plain | whitespace plain => exact applies plain.uncommented

/-- Strings and comments end exactly where they should, in the scan of every language with a
dialect.  Every quote of a text lies in a string or a comment.  A string is delimited by its
quote, and a comment by its marks, in the sense of `Quote.Delimits` and `CommentStyle.Delimits`;
and no other token starts where a line marker or an enabled block does. -/
theorem strings_and_comments_delimited {language : Language} {dialect : Dialect}
    (builtIn : Dialect.ofLanguage? language = some dialect) (text : Text) :
    (∀ (place : Nat) (quote : Quote), text[place]? = some quote.mark →
      ∃ token ∈ tokens dialect ScanRule.standard text,
        (token.cls = .string ∨ token.cls = .comment) ∧
          token.span.start.offset ≤ place ∧ place < token.span.stop.offset) ∧
      ∀ token ∈ tokens dialect ScanRule.standard text, ∃ before after,
        token.StandsIn text before after ∧
          (token.cls = .string → ∃ quote : Quote, quote.Delimits token.text after) ∧
          (token.cls = .comment → dialect.comments.Delimits token.text after) ∧
          (token.cls ≠ .comment →
            ¬dialect.comments.lineMarker <+: token.text ++ after ∧
              ¬(dialect.comments.blocks = true ∧ ['/', '*'] <+: token.text ++ after)) := by
  have proper := CommentStyle.proper_of_ofLanguage? builtIn
  have covered := partition_tokens dialect ScanRule.standard text
  constructor
  · intro place quote here
    obtain ⟨token, member, held, starts, stops⟩ := covered.exists_mem_of_getElem? here
    obtain ⟨earlier, later, split⟩ := List.append_of_mem member
    obtain ⟨c, rest, ahead, takes⟩ := takes_of_split split
    rw [List.length_nil, Nat.zero_add] at starts stops
    refine ⟨token, member, ?_, starts, stops⟩
    apply takes.string_or_comment
    rw [← ahead, List.take_left]
    exact held
  · intro token member
    obtain ⟨earlier, later, split⟩ := List.append_of_mem member
    obtain ⟨c, rest, ahead, takes⟩ := takes_of_split split
    rw [split] at covered
    refine ⟨_, _, covered.standsIn, ?_, ?_, ?_⟩
    · intro string
      rw [string] at takes
      have delimited := takes.delimits_string
      rwa [← ahead, List.take_left, List.drop_left] at delimited
    · intro comment
      rw [comment] at takes
      have delimited := takes.delimits_comment proper.unbroken
      rwa [← ahead, List.take_left, List.drop_left] at delimited
    · rw [ahead]
      exact takes.unmarked proper

/-- In `/*/"*/'a` the star of the opening mark closes nothing, the double quote stands in the
comment, and the single quote behind it is never closed. -/
theorem strings_and_comments_delimited_overlapping :
    let text := ['/', '*', '/', '\x22', '*', '/', '\x27', 'a']
    let comment : Token :=
      ⟨.comment, ['/', '*', '/', '\x22', '*', '/'], ⟨⟨1, 1, 0⟩, ⟨1, 7, 6⟩⟩⟩
    Dialect.ofLanguage? .rust = some .rust ∧
      (∃ token ∈ tokens .rust ScanRule.standard text,
        (token.cls = .string ∨ token.cls = .comment) ∧
          token.span.start.offset ≤ 3 ∧ 3 < token.span.stop.offset) ∧
      ∃ before after, comment.StandsIn text before after ∧
        Dialect.rust.comments.Delimits comment.text after := by
  intro text comment
  have builtIn : Dialect.ofLanguage? .rust = some .rust := rfl
  have member : comment ∈ tokens .rust ScanRule.standard text := by
    decide +kernel
  obtain ⟨quotes, delimited⟩ := strings_and_comments_delimited builtIn text
  obtain ⟨before, after, stands, _, comments, _⟩ := delimited comment member
  exact ⟨builtIn, quotes 3 .double rfl, before, after, stands, comments rfl⟩

end Code

end Highlighter
