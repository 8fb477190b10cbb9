import Highlighter.Proofs.Delimiters

/-!
# Words are whole and have the class of the first rule for words

Whatever a token of the scan is, no word goes on behind it: strings and comments end with a mark
or where a line or the text ends, a numeral is taken only where no word character follows, and
words are taken as long as they go on.  So the scan never stands inside a word, and a token that
starts with a word character starts with a whole word.  Its class is then decided by the
vocabulary, by the numeral that may start there, and by the parenthesis that may follow.
-/

namespace Highlighter.Code

open ScanRule

/-! ## Boundaries and words -/

/-- No word goes on from the end of one text to the start of another. -/
def Apart (before after : Text) : Prop :=
  ¬(before.getLast?.any isWordChar = true ∧ after.head?.any isWordChar = true)

/-- A word between two texts that neither continue it nor are continued by it. -/
structure MaximalWord (before word after : Text) : Prop where
  filled : word ≠ []
  wordOnly : ∀ c ∈ word, isWordChar c = true
  notBefore : ∀ c ∈ before.getLast?, isWordChar c = false
  notAfter : ∀ c ∈ after.head?, isWordChar c = false

section

variable (dialect : Dialect) (text : Text)

/-- The class and the text of the token at the start of a text that starts with a word: what the
vocabulary knows, then a numeral with no word character behind it, then a word with a parenthesis
behind it, then any other word. -/
inductive WordToken : TokenClass → Text → Prop where
  | keyword (known : dialect.vocabulary.isKeyword (wordAt text) = true) :
      WordToken .keyword (wordAt text)
  | type (noKeyword : dialect.vocabulary.isKeyword (wordAt text) = false)
      (known : dialect.vocabulary.isType (wordAt text) = true) : WordToken .type (wordAt text)
  | number {numeral : Text} (other : OtherWord dialect text)
      (separate : Numeral.Separate text numeral) : WordToken .number numeral
  | functionCall (other : OtherWord dialect text)
      (unnumbered : ∀ numeral, ¬Numeral.Separate text numeral)
      (called : (text.drop (wordAt text).length).head? = some '(') :
      WordToken .functionCall (wordAt text)
  | identifier (other : OtherWord dialect text)
      (unnumbered : ∀ numeral, ¬Numeral.Separate text numeral)
      (uncalled : (text.drop (wordAt text).length).head? ≠ some '(') :
      WordToken .identifier (wordAt text)

end

variable {dialect : Dialect} {c : Char} {rest before part after : Text} {cls : TokenClass}
  {length : Nat}

theorem apart_of_getLast? (ended : ∀ c ∈ before.getLast?, isWordChar c = false) (after : Text) :
    Apart before after := by
  rintro ⟨last, _⟩
  rw [(Option.any_eq_false _ _).mpr ended] at last
  contradiction

theorem apart_of_head? (before : Text) (started : ∀ c ∈ after.head?, isWordChar c = false) :
    Apart before after := by
  rintro ⟨_, first⟩
  rw [(Option.any_eq_false _ _).mpr started] at first
  contradiction

theorem apart_of_endsLine (before : Text) (ended : EndsLine after) : Apart before after := by
  apply apart_of_head?
  intro c first
  rw [ended c first]
  rfl

/-- Only the end of what stands before matters. -/
theorem apart_append_iff (filled : part ≠ []) : Apart (before ++ part) after ↔ Apart part after := by
  rw [Apart, Apart, List.getLast?_append_of_ne_nil before filled]

/-- Where a word starts, none goes on from before. -/
theorem Apart.notBefore (apart : Apart before after) (first : after.head?.any isWordChar = true) :
    ∀ c ∈ before.getLast?, isWordChar c = false := by
  intro c last
  cases word : isWordChar c with
  | false => rfl
  | true =>
      have goesOn : before.getLast?.any isWordChar = true := by
        rw [last]
        exact word
      exact absurd ⟨goesOn, first⟩ apart

/-! ## What the rules take is a whole word or ends none -/

/-- No word goes on behind a string. -/
theorem apart_of_delimits {quote : Quote} (delimits : quote.Delimits part after) :
    Apart part after := by
  cases delimits with
  | closed =>
      apply apart_of_getLast?
      intro c last
      rw [← List.cons_append, List.getLast?_concat] at last
      rw [← Option.some.inj last]
      exact (mark_unlike quote).1
  | template => exact apart_of_head? _ nofun
  | line _ _ _ ended => exact apart_of_endsLine _ ended

/-- A word is cut off where it ends. -/
theorem take_wordLength (text : Text) : text.take (wordLength text) = wordAt text :=
  text.take_countWhile isWordChar

theorem length_wordAt (text : Text) : (wordAt text).length = wordLength text :=
  rfl

theorem drop_wordLength (text : Text) : text.drop (wordLength text) = text.dropWhile isWordChar :=
  text.drop_countWhile isWordChar

theorem not_isWordChar_behind_word (text : Text) :
    ∀ c ∈ (text.drop (wordLength text)).head?, isWordChar c = false := by
  rw [drop_wordLength]
  exact Text.not_belongs_of_head?_dropWhile

/-- No word goes on behind what the rules take. -/
theorem Takes.apart (takes : Takes dialect c rest cls length) :
    Apart ((c :: rest).take length) ((c :: rest).drop length) := by
  cases takes with
  | @string quote opened =>
      subst opened
      exact apart_of_delimits (quote.delimits_take rest)
  | comment _ marked =>
      rcases CommentStyle.commentLength_cases marked with ⟨_, extent⟩ |
        ⟨_, ⟨inside, after, split, extent, _⟩ | ⟨_, _, extent, _⟩⟩
      · rw [extent]
        exact apart_of_endsLine _ (Text.endsLine_drop_lineLength _)
      · have closing : '/' :: '*' :: (inside ++ ['*', '/']) =
            ('/' :: '*' :: (inside ++ ['*'])) ++ ['/'] := by simp
        rw [extent, split, List.take_left, List.drop_left, closing]
        apply apart_of_getLast?
        intro c last
        rw [List.getLast?_concat] at last
        rw [← Option.some.inj last]
        rfl
      · rw [extent, List.drop_length]
        exact apart_of_head? _ nofun
  | keyword | type | functionCall | identifier =>
      exact apart_of_head? _ (not_isWordChar_behind_word _)
  | number _ numbered =>
      have ended := (Numeral.separate_take numbered).ended
      rw [List.length_take, Nat.min_eq_left (numberLength_le _)] at ended
      exact apart_of_head? _ ended
  | punctuation _ noWord _ =>
      apply apart_of_getLast?
      rintro d ⟨⟩
      exact noWord
  | whitespace =>
      apply apart_of_getLast?
      intro d last
      have inside := List.mem_of_getLast? last
      rw [Text.take_countWhile] at inside
      exact isWordChar_eq_false_of_isAsciiBlank (List.all_eq_true.mp List.all_takeWhile d inside)

/-- What the rules for words take is a word that is not continued. -/
theorem Takes.word (takes : Takes dialect c rest cls length)
    (named : cls ∈ [.keyword, .type, .functionCall, .identifier]) :
    isWordChar c = true ∧ length = wordLength (c :: rest) := by
  cases takes with
  | keyword starts | type starts => exact ⟨starts.isWordChar, rfl⟩
  | functionCall starts | identifier starts => exact ⟨starts.isWordChar, rfl⟩
  | string | comment | number | punctuation | whitespace => simp at named

/-- Where a word starts and no comment does, the rules take the token of the word. -/
theorem Takes.wordToken (takes : Takes dialect c rest cls length) (word : isWordChar c = true)
    (noComment : cls ≠ .comment) :
    WordToken dialect (c :: rest) cls ((c :: rest).take length) := by
  cases takes with
  | @string quote opened =>
      rw [opened, (mark_unlike quote).1] at word
      contradiction
  | comment => contradiction
  | keyword _ known =>
      rw [take_wordLength]
      exact .keyword known
  | type _ noKeyword known =>
      rw [take_wordLength]
      exact .type noKeyword known
  | number starts numbered =>
      exact .number starts.toOtherWord (Numeral.separate_take numbered)
  | functionCall starts unnumbered called =>
      rw [take_wordLength]
      apply WordToken.functionCall starts.toOtherWord
      · exact Numeral.not_separate_of_numberLength unnumbered
      · rw [length_wordAt, drop_wordLength]
        exact called
  | identifier starts unnumbered uncalled =>
      rw [take_wordLength]
      apply WordToken.identifier starts.toOtherWord
      · exact Numeral.not_separate_of_numberLength unnumbered
      · rw [length_wordAt, drop_wordLength]
        exact uncalled
  | punctuation _ noWord =>
      rw [noWord] at word
      contradiction
  | whitespace _ blank =>
      rw [isWordChar_eq_false_of_isAsciiBlank blank] at word
      contradiction

/-- What the rules take is what one of them takes, wherever it is asked. -/
theorem Takes.exists_rule (takes : Takes dialect c rest cls length) :
    ∃ rule ∈ standard, rule.tokenClass = cls ∧
      ∀ offset, (rule.extent dialect .empty offset c rest).1 = length := by
  cases takes with
  | string opened =>
      exact ⟨.string, by decide, rfl, fun offset => fst_stringLength_empty opened offset rest⟩
  | comment => exact ⟨.comment, by decide, rfl, fun _ => rfl⟩
  | keyword _ known => exact ⟨.keyword, by decide, rfl, fun _ => wordLengthIf_of_known known⟩
  | type _ _ known => exact ⟨.type, by decide, rfl, fun _ => wordLengthIf_of_known known⟩
  | number => exact ⟨.number, by decide, rfl, fun _ => rfl⟩
  | functionCall _ _ called => exact ⟨.functionCall, by decide, rfl, fun _ => if_pos called⟩
  | identifier => exact ⟨.identifier, by decide, rfl, fun _ => rfl⟩
  | punctuation _ noWord noBlank =>
      refine ⟨.punctuation, by decide, rfl, ?_⟩
      intro offset
      simp only [extent, noWord, noBlank, Bool.or_false, Bool.false_eq_true, if_false]
  | whitespace => exact ⟨.whitespace, by decide, rfl, fun _ => rfl⟩

/-! ## Every token of a scan -/

variable {text : Text} {earlier later : List Token} {token : Token}

/-- A token of the scan, the texts around it, and what the rules take there. -/
theorem standsIn_of_split (split : tokens dialect standard text = earlier ++ token :: later) :
    token.StandsIn text (Token.source earlier) (Token.source later) := by
  have covered := partition_tokens dialect standard text
  rw [split] at covered
  exact covered.standsIn

/-- No word goes on over a boundary between tokens: the token before the boundary ends none. -/
theorem apart_of_split (split : tokens dialect standard text = earlier ++ later) :
    Apart (Token.source earlier) (Token.source later) := by
  rcases List.eq_nil_or_concat' earlier with rfl | ⟨others, last, rfl⟩
  · apply apart_of_getLast?
    intro c last
    contradiction
  · -- the token that ends at the boundary tells, whatever stands before it
    rw [List.append_assoc, List.singleton_append] at split
    obtain ⟨c, rest, ahead, takes⟩ := takes_of_split split
    have apart := takes.apart
    rw [← ahead, List.take_left, List.drop_left] at apart
    rw [Token.source_concat]
    exact (apart_append_iff (standsIn_of_split split).filled).mpr apart

/-- A rule that takes the token at its place ends where the token ends. -/
theorem endAt?_of_split (split : tokens dialect standard text = earlier ++ token :: later) :
    ∃ rule ∈ standard, rule.tokenClass = token.cls ∧
      rule.endAt? dialect text token.span.start.offset = some token.span.stop.offset := by
  have stands := standsIn_of_split split
  obtain ⟨c, rest, ahead, takes⟩ := takes_of_split split
  obtain ⟨rule, known, made, taken⟩ := takes.exists_rule
  have remaining : text.drop token.span.start.offset = c :: rest := by
    rw [stands.span_eq, ← ahead, stands.split]
    exact List.drop_left
  refine ⟨rule, known, made, ?_⟩
  have extent : token.span.stop.offset = token.span.start.offset + token.text.length := by
    rw [stands.span_eq]
    exact List.length_append
  simp only [endAt?, remaining, taken, extent]

/-- Words are never split, and the first rule for words decides their class.  No boundary between
tokens lies inside a word; the tokens of the classes for words are whole words; and a token that
starts with a word character and is no comment is the one that `WordToken` says.  One of the rules
ends where the token does, so no character is taken without a rule. -/
theorem words_whole_and_classified (dialect : Dialect) (text : Text) :
    ∀ token ∈ tokens dialect standard text, ∃ before after,
      token.StandsIn text before after ∧
        Apart before (token.text ++ after) ∧ Apart (before ++ token.text) after ∧
        (token.cls ∈ [.keyword, .type, .functionCall, .identifier] →
          MaximalWord before token.text after) ∧
        (token.cls ≠ .comment → token.text.head?.any isWordChar = true →
          WordToken dialect (token.text ++ after) token.cls token.text) ∧
        ∃ rule ∈ standard, rule.tokenClass = token.cls ∧
          rule.endAt? dialect text token.span.start.offset = some token.span.stop.offset := by
  intro token member
  obtain ⟨earlier, later, split⟩ := List.append_of_mem member
  have stands := standsIn_of_split split
  have apartBefore := apart_of_split split
  have apartAfter := apart_of_split (split.trans (List.append_cons earlier token later))
  rw [Token.source_cons] at apartBefore
  rw [Token.source_concat] at apartAfter
  obtain ⟨c, rest, ahead, takes⟩ := takes_of_split split
  have first : token.text.head? = some c := by
    rw [← List.head?_append_of_ne_nil token.text stands.filled, ahead, List.head?_cons]
  refine ⟨_, _, stands, apartBefore, apartAfter, ?_, ?_, endAt?_of_split split⟩
  · intro named
    obtain ⟨word, extent⟩ := takes.word named
    have whole : token.text = wordAt (c :: rest) := by
      rw [← take_wordLength, ← extent, ← ahead, List.take_left]
    have behind : Token.source later = (c :: rest).drop (wordLength (c :: rest)) := by
      rw [← extent, ← ahead, List.drop_left]
    constructor
    · exact stands.filled
    · rw [whole]
      exact List.all_eq_true.mp List.all_takeWhile
    · apply apartBefore.notBefore
      rw [ahead]
      exact word
    · rw [behind]
      exact not_isWordChar_behind_word _
  · intro noComment word
    rw [first] at word
    have named := takes.wordToken word noComment
    rwa [← ahead, List.take_left] at named

/-- In `1.5x(2)` no numeral starts the text, since a word goes on from `1.5`; and `5x` is called. -/
theorem words_whole_and_classified_numeral :
    let text := ['1', '.', '5', 'x', '(', '2', ')']
    let call : Token := ⟨.functionCall, ['5', 'x'], ⟨⟨1, 3, 2⟩, ⟨1, 5, 4⟩⟩⟩
    call ∈ tokens .python standard text ∧
      ∃ before after, call.StandsIn text before after ∧ MaximalWord before call.text after ∧
        WordToken .python (call.text ++ after) .functionCall call.text := by
  intro text call
  have member : call ∈ tokens .python standard text := by
    decide +kernel
  obtain ⟨before, after, stands, _, _, whole, classified, _⟩ :=
    words_whole_and_classified .python text call member
  have named : call.cls ∈ [.keyword, .type, .functionCall, .identifier] := by
    decide
  have noComment : call.cls ≠ .comment := by
    decide
  exact ⟨member, before, after, stands, whole named, classified noComment rfl⟩

end Highlighter.Code
