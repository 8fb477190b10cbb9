import Highlighter.Proofs.JsonDocument
import Highlighter.Proofs.JsonLexeme
import Highlighter.Proofs.NumeralGrammar
import Highlighter.Proofs.UnclosedQuotes

/-!
# What the scan for JSON makes of a document

At the start of a lexeme the scan finds this lexeme, with its class and its whole length,
whatever follows in a document: a string ends with its own closing quote, a number and a
word end before a blank or a mark, and a key is told from another string by the colon
behind its blanks.  So the scan gives back the lexemes of a document in their order, and
its runs of blanks.
-/

namespace Highlighter

namespace Json

/-! ## Where numbers and words end -/

/-- A text in front of which a number or a word ends: it is empty, or starts with a blank or
a mark. -/
def Separates (rest : Text) : Prop :=
  ∀ c ∈ rest.head?, isAsciiBlank c = true ∨ isPunctuation c = true

/-- A blank or a mark continues neither a word nor a number. -/
theorem continues_nothing {c : Char} (separates : isAsciiBlank c = true ∨ isPunctuation c = true) :
    isWordChar c = false ∧ c ∉ Numeral.marks := by
  simp only [isAsciiBlank, isPunctuation, Bool.or_eq_true, beq_iff_eq, or_assoc] at separates
  rcases separates with
    rfl | rfl | rfl | rfl | rfl | rfl | rfl | rfl | rfl | rfl | rfl | rfl <;> decide

/-! ## Numbers -/

/-- A digit is neither a sign nor a mark of another part of a number. -/
theorem ne_of_isDigit {c other : Char} (digit : c.isDigit = true)
    (unlike : other.isDigit = false) : c ≠ other := by
  rintro rfl
  rw [digit] at unlike
  contradiction

theorem Digits.isDigits (digits : Digits) : Numeral.IsDigits digits.text := by
  constructor
  · exact List.cons_ne_nil _ _
  · intro c member
    rcases List.mem_cons.mp member with rfl | later
    · exact digits.first.property
    · obtain ⟨digit, _, rfl⟩ := List.mem_map.mp later
      exact digit.property

theorem Exponent.isExponent (exponent : Exponent) : Numeral.IsExponent exponent.text := by
  have named : ∀ capital : Bool, (if capital then 'E' else 'e') = 'e' ∨
      (if capital then 'E' else 'e') = 'E' := by
    decide
  apply Numeral.IsExponent.power (named exponent.capital) _ exponent.digits.isDigits
  cases exponent.sign with
  | none => exact .absent
  | some sign =>
      cases sign with
      | plus => exact .plus
      | minus => exact .minus

namespace Number

variable (number : Number) {rest : Text}

theorem isFraction_fractionText : Numeral.IsFraction number.fractionText := by
  unfold fractionText
  cases number.fraction with
  | none => exact .absent
  | some digits => exact .point digits.isDigits

theorem isExponent_exponentText : Numeral.IsExponent number.exponentText := by
  unfold exponentText
  cases number.exponent with
  | none => exact .absent
  | some exponent => exact exponent.isExponent

/-- A number without its sign is a numeral. -/
theorem isNumeral_unsignedText : Numeral.IsNumeral number.unsignedText :=
  .parts number.whole.isDigits number.isFraction_fractionText number.isExponent_exponentText

/-- A number in front of a text that cannot continue it is found in full. -/
theorem numberLength_append (ended : Separates rest) :
    numberLength (number.text ++ rest) = number.text.length := by
  have numeral := number.isNumeral_unsignedText
  have unsigned : Numeral.length (number.unsignedText ++ rest) = number.unsignedText.length := by
    apply numeral.length_append
    intro c first
    obtain ⟨other, unlike⟩ := continues_nothing (ended c first)
    exact ⟨isDigit_eq_false other, unlike⟩
  obtain ⟨length, filled⟩ := Nat.exists_eq_add_one.mpr (List.length_pos_iff.mpr numeral.ne_nil)
  unfold text
  split
  · rw [filled] at unsigned
    simp only [List.cons_append, numberLength, if_true, unsigned, List.length_cons, filled]
  · have positive : number.whole.first.val ≠ '-' :=
      ne_of_isDigit number.whole.first.property rfl
    rw [← unsigned]
    exact if_neg positive

end Number

/-! ## Strings -/

theorem closingLength?_cons_of_plain {c : Char} (unquoted : c ≠ Quote.double.mark)
    (unescaped : c ≠ '\\') (rest : Text) :
    Quote.double.closingLength? (c :: rest) =
      (Quote.double.closingLength? rest).map (· + 1) := by
  cases rest with
  | nil => exact if_neg unquoted
  | cons d later => rw [Quote.closingLength?, if_neg unquoted, if_neg unescaped]

theorem closingLength?_escape (c : Char) (rest : Text) :
    Quote.double.closingLength? ('\\' :: c :: rest) =
      (Quote.double.closingLength? rest).map (· + 2) := by
  rw [Quote.closingLength?, if_neg (by decide), if_pos rfl]

theorem closingLength?_mark (rest : Text) :
    Quote.double.closingLength? ('\x22' :: rest) = some 1 := by
  cases rest with
  | nil => rfl
  | cons c later => rfl

theorem HexDigit.plain (digit : HexDigit) : digit.val ≠ '\x22' ∧ digit.val ≠ '\\' := by
  obtain ⟨c, decimal | letter⟩ := digit
  · exact ⟨ne_of_isDigit decimal rfl, ne_of_isDigit decimal rfl⟩
  · constructor <;> (rintro rfl; simp at letter)

/-- The search for the closing quote passes over a part of a string. -/
theorem StringPart.closingLength?_append (part : StringPart) (rest : Text) :
    Quote.double.closingLength? (part.text ++ rest) =
      (Quote.double.closingLength? rest).map (· + part.text.length) := by
  cases part with
  | plain c _ unmarked => exact closingLength?_cons_of_plain unmarked.1 unmarked.2 rest
  | escape c _ => exact closingLength?_escape c rest
  | code first second third fourth =>
      simp only [StringPart.text, List.cons_append, List.nil_append, closingLength?_escape,
        closingLength?_cons_of_plain first.plain.1 first.plain.2,
        closingLength?_cons_of_plain second.plain.1 second.plain.2,
        closingLength?_cons_of_plain third.plain.1 third.plain.2,
        closingLength?_cons_of_plain fourth.plain.1 fourth.plain.2, Option.map_map]
      rfl

/-- The search finds the quote that closes a string. -/
theorem closingLength?_contents (contents : Contents) (rest : Text) :
    Quote.double.closingLength? (contents.text ++ '\x22' :: rest) =
      some (contents.text.length + 1) := by
  induction contents with
  | nil => exact closingLength?_mark rest
  | cons part later inductionHypothesis =>
      rw [Contents.text, List.flatMap_cons, List.append_assoc, part.closingLength?_append]
      change (Quote.double.closingLength? (Contents.text later ++ '\x22' :: rest)).map _ = _
      rw [inductionHypothesis, Option.map_some, List.length_append, ← Contents.text,
        Nat.add_right_comm, Nat.add_comm part.text.length]

/-- A string is found up to its own closing quote. -/
theorem stringLength?_quoted (contents : Contents) (rest : Text) :
    Quote.double.stringLength? (quoted contents ++ rest) = some (quoted contents).length := by
  have found := closingLength?_contents contents rest
  rw [quoted, List.cons_append, List.append_assoc, List.singleton_append, Quote.stringLength?,
    if_pos (by rfl), found, Option.map_some, List.length_cons, List.length_append]
  rfl

/-! ## Every lexeme at its place -/

section

variable {closable afterWord : Bool} {c : Char} {rest : Text}

theorem numberLength_cons_eq_zero (unsigned : c ≠ '-') (other : c.isDigit = false) :
    numberLength (c :: rest) = 0 := by
  simp only [numberLength, if_neg unsigned, Numeral.length_cons_eq_zero other]

/-- A lexeme that is no string, no number and no word is found by its first character. -/
theorem lexeme?_of_other (unquoted : c ≠ Quote.double.mark) (unsigned : c ≠ '-')
    (other : c.isDigit = false) (unknown : wordLength (c :: rest) = 0) :
    lexeme? true afterWord (c :: rest) =
      if isPunctuation c then some (.punctuation, 1)
      else
        match Text.countWhile isAsciiBlank (c :: rest) with
        | length + 1 => some (.whitespace, length + 1)
        | 0 => none := by
  unfold lexeme?
  rw [if_pos rfl, Quote.stringLength?_cons_of_ne unquoted,
    numberLength_cons_eq_zero unsigned other, unknown, ite_self]
  rfl

theorem wordLength_of_blank (blank : isAsciiBlank c = true) : wordLength (c :: rest) = 0 := by
  by_contra present
  rcases exists_word_of_wordLength (Nat.pos_of_ne_zero present) with ⟨word, after, known, split, _⟩
  simp only [words, List.mem_cons, List.not_mem_nil, or_false] at known
  rcases known with rfl | rfl | rfl
  all_goals
    rw [(List.cons.inj split).1] at blank
    contradiction

/-- At a blank the scan for JSON finds the blanks there. -/
theorem lexeme?_of_blank (blank : isAsciiBlank c = true) :
    lexeme? closable afterWord (c :: rest) =
      some (.whitespace, Text.countWhile isAsciiBlank (c :: rest)) := by
  have noWord := continues_nothing (Or.inl blank)
  have unquoted : c ≠ Quote.double.mark := by
    rintro rfl
    contradiction
  have unsigned : c ≠ '-' := by
    rintro rfl
    contradiction
  have unmarked : isPunctuation c = false := by
    simp only [isAsciiBlank, Bool.or_eq_true, beq_iff_eq] at blank
    rcases blank with ((((rfl | rfl) | rfl) | rfl) | rfl) | rfl <;> rfl
  rw [lexeme?_eq_of_no_string (Quote.stringLength?_cons_of_ne unquoted rest),
    lexeme?_of_other unquoted unsigned (isDigit_eq_false noWord.1) (wordLength_of_blank blank),
    unmarked, if_neg Bool.false_ne_true]
  rcases Nat.exists_eq_add_one_of_ne_zero (Text.countWhile_cons_ne_zero blank rest) with
    ⟨further, counted⟩
  rw [counted]

end

/-- A number starts with its sign or with a digit. -/
theorem Number.text_eq_cons (number : Number) :
    ∃ c later, number.text = c :: later ∧ (c = '-' ∨ c.isDigit = true) := by
  unfold Number.text
  split
  · exact ⟨'-', number.unsignedText, rfl, Or.inl rfl⟩
  · exact ⟨number.whole.first.val, _, rfl, Or.inr number.whole.first.property⟩

/-- A lexeme starts with a character that is no blank, and that is a colon in a colon only. -/
theorem Lexeme.text_eq_cons (lexeme : Lexeme) :
    ∃ c later, lexeme.text = c :: later ∧ isAsciiBlank c = false ∧
      (c == ':') = lexeme.isColon := by
  cases lexeme with
  | mark sign => exact ⟨sign.char, [], rfl, by cases sign <;> decide, by cases sign <;> decide⟩
  | key contents | string contents =>
      exact ⟨'\x22', contents.text ++ ['\x22'], rfl, rfl, rfl⟩
  | number written =>
      obtain ⟨c, later, starts, signed | digit⟩ := written.text_eq_cons
      · rw [signed] at starts
        exact ⟨'-', later, starts, rfl, rfl⟩
      · refine ⟨c, later, starts, ?_, beq_eq_false_iff_ne.mpr (ne_of_isDigit digit rfl)⟩
        cases blank : isAsciiBlank c with
        | false => rfl
        | true =>
            have other := (continues_nothing (Or.inl blank)).1
            rw [isWordChar_of_isDigit digit] at other
            contradiction
  | flag truth => cases truth <;> exact ⟨_, _, rfl, rfl, rfl⟩
  | null => exact ⟨_, _, rfl, rfl, rfl⟩

variable {afterWord : Bool} {rest : Text}

theorem lexeme?_quoted (contents : Contents) (rest : Text) :
    lexeme? true afterWord (quoted contents ++ rest) =
      some (if beforeColon rest then .property else .string, (quoted contents).length) := by
  unfold lexeme?
  rw [if_pos rfl, stringLength?_quoted]
  simp only [List.drop_left]

theorem lexeme?_number (number : Number) (ended : Separates rest) :
    lexeme? true afterWord (number.text ++ rest) = some (.number, number.text.length) := by
  have found := number.numberLength_append ended
  obtain ⟨c, later, starts, signed⟩ := number.text_eq_cons
  have unquoted : c ≠ Quote.double.mark := by
    rcases signed with rfl | digit
    · decide
    · exact ne_of_isDigit digit rfl
  unfold lexeme?
  rw [if_pos rfl, found, starts, List.cons_append, Quote.stringLength?_cons_of_ne unquoted]
  rfl

/-- A word in front of a text that cannot continue it is found in full. -/
theorem wordLength_append {word : Text} (known : word ∈ words) (ended : Separates rest) :
    wordLength (word ++ rest) = word.length := by
  have first : words.find? (·.isPrefixOf (word ++ rest)) = some word := by
    simp only [words, List.mem_cons, List.not_mem_nil, or_false] at known
    rcases known with rfl | rfl | rfl <;> rfl
  have unfollowed : rest.head?.any isWordChar = false := by
    cases rest with
    | nil => rfl
    | cons c later => exact (continues_nothing (ended c rfl)).1
  unfold wordLength
  simp only [first, List.drop_left, unfollowed, Bool.false_eq_true, if_false]

theorem lexeme?_word {word : Text} (known : word ∈ words) (ended : Separates rest) :
    lexeme? true false (word ++ rest) = some (.keyword, word.length) := by
  have found := wordLength_append known ended
  have starts : ∃ c later, word = c :: later ∧ c ≠ Quote.double.mark ∧ c ≠ '-' ∧
      c.isDigit = false := by
    simp only [words, List.mem_cons, List.not_mem_nil, or_false] at known
    rcases known with rfl | rfl | rfl <;> exact ⟨_, _, rfl, by decide, by decide, by decide⟩
  obtain ⟨c, later, rfl, unquoted, unsigned, other⟩ := starts
  rw [List.cons_append] at found ⊢
  unfold lexeme?
  rw [if_pos rfl, Quote.stringLength?_cons_of_ne unquoted,
    numberLength_cons_eq_zero unsigned other, found]
  rfl

theorem lexeme?_mark (sign : Mark) (rest : Text) :
    lexeme? true afterWord (sign.char :: rest) = some (.punctuation, 1) := by
  cases sign <;> exact lexeme?_of_other (by decide) (by decide) (by decide) rfl

theorem Blank.isAsciiBlank_char (blank : Blank) : isAsciiBlank blank.char = true := by
  cases blank <;> rfl

theorem lexeme?_blanks {blanks : List Blank} (present : blanks ≠ [])
    (ended : ∀ c ∈ rest.head?, isAsciiBlank c = false) :
    lexeme? true afterWord (blanks.map Blank.char ++ rest) =
      some (.whitespace, (blanks.map Blank.char).length) := by
  have counted : Text.countWhile isAsciiBlank (blanks.map Blank.char ++ rest) =
      (blanks.map Blank.char).length := by
    apply Text.countWhile_append _ ended
    intro c member
    obtain ⟨blank, _, rfl⟩ := List.mem_map.mp member
    exact blank.isAsciiBlank_char
  cases blanks with
  | nil => contradiction
  | cons blank later =>
      rw [List.map_cons, List.cons_append] at counted ⊢
      rw [lexeme?_of_blank blank.isAsciiBlank_char, counted]

/-- A lexeme is found with its class and its whole length: behind a mark or a blank and in
front of one, and a key in front of a colon.  A mark is found anywhere. -/
theorem Lexeme.lexeme?_append (lexeme : Lexeme)
    (spaced : lexeme.isMark = false → afterWord = false)
    (ended : lexeme.isMark = false → Separates rest)
    (coloned : lexeme.isKey = beforeColon rest) :
    lexeme? true afterWord (lexeme.text ++ rest) =
      some (lexeme.tokenClass, lexeme.text.length) := by
  cases lexeme with
  | mark sign => exact lexeme?_mark sign rest
  | key contents | string contents =>
      rw [Lexeme.text, lexeme?_quoted, ← coloned]
      rfl
  | number written => exact lexeme?_number written (ended rfl)
  | flag truth =>
      have known : (flag truth).text ∈ words := by cases truth <;> decide
      rw [spaced rfl]
      exact lexeme?_word known (ended rfl)
  | null =>
      have known : Lexeme.null.text ∈ words := by decide
      rw [spaced rfl]
      exact lexeme?_word known (ended rfl)

/-! ## Documents -/

/-- What is found in front is cut off as a piece. -/
theorem piecesFrom_append {closable : Bool} {cls : TokenClass} {found : Text}
    (filled : found ≠ [])
    (here : lexeme? closable afterWord (found ++ rest) = some (cls, found.length)) :
    piecesFrom closable afterWord [] (found ++ rest) =
      ⟨cls, found⟩ :: piecesFrom closable (found.getLast?.any isWordChar) [] rest := by
  cases found with
  | nil => contradiction
  | cons c later =>
      rw [List.cons_append] at here ⊢
      rw [piecesFrom, here]
      simp only [List.length_cons, Nat.add_sub_cancel, List.take_left, List.drop_left,
        List.getLast?_eq_some_getLast (List.cons_ne_nil c later), Option.any_some]
      rfl

theorem Lexeme.text_ne_nil (lexeme : Lexeme) : lexeme.text ≠ [] := by
  obtain ⟨c, later, starts, _⟩ := lexeme.text_eq_cons
  rw [starts]
  exact List.cons_ne_nil c later

/-- A run of blanks in front is cut off, and no word stands directly before what follows. -/
theorem piecesFrom_blanks (blanks : List Blank)
    (ended : ∀ c ∈ rest.head?, isAsciiBlank c = false) :
    piecesFrom true afterWord [] (blanks.map Blank.char ++ rest) =
      gapPieces blanks ++ piecesFrom true (afterWord && blanks.isEmpty) [] rest := by
  cases blanks with
  | nil => rw [List.isEmpty_nil, Bool.and_true]; rfl
  | cons blank later =>
      have present : blank :: later ≠ [] := List.cons_ne_nil blank later
      have filled : (blank :: later).map Blank.char ≠ [] := List.cons_ne_nil _ _
      have blankLast : ((blank :: later).map Blank.char).getLast?.any isWordChar = false := by
        rw [List.getLast?_map, List.getLast?_eq_some_getLast present]
        exact (continues_nothing (Or.inl (Blank.isAsciiBlank_char _))).1
      rw [piecesFrom_append filled (lexeme?_blanks present ended), blankLast,
        List.isEmpty_cons, Bool.and_false]
      rfl

/-- A lexeme is no blank at its start. -/
theorem Lexeme.head_text_append (lexeme : Lexeme) (rest : Text) :
    ∀ c ∈ (lexeme.text ++ rest).head?, isAsciiBlank c = false := by
  obtain ⟨c, later, starts, unblank, _⟩ := lexeme.text_eq_cons
  rw [starts]
  intro d first
  rw [← Option.some.inj first]
  exact unblank

/-- A colon stands behind the blanks of a layout when the first lexeme is a colon. -/
theorem beforeColon_layoutText (blanks : Nat → List Blank) (lexemes : List Lexeme) :
    beforeColon (layoutText blanks lexemes) = lexemes.head?.any Lexeme.isColon := by
  have blank : ∀ c ∈ (blanks 0).map Blank.char, isAsciiBlank c = true := by
    intro c member
    obtain ⟨blank, _, rfl⟩ := List.mem_map.mp member
    exact blank.isAsciiBlank_char
  cases lexemes with
  | nil =>
      rw [layoutText_nil, beforeColon, List.dropWhile_eq_nil_iff.mpr blank]
      rfl
  | cons lexeme later =>
      obtain ⟨c, others, starts, unblank, coloned⟩ := lexeme.text_eq_cons
      rw [layoutText_cons, beforeColon, List.dropWhile_append_of_pos blank, starts,
        List.cons_append, List.dropWhile_cons, if_neg (by simp [unblank]), List.head?_cons,
        List.head?_cons, Option.any_some, ← coloned]
      rfl

/-- A layout separates when its first lexeme is a mark. -/
theorem separates_layoutText (blanks : Nat → List Blank) {lexemes : List Lexeme}
    (marked : ∀ first ∈ lexemes.head?, first.isMark = true) :
    Separates (layoutText blanks lexemes) := by
  intro c first
  cases lexemes with
  | nil =>
      rw [layoutText_nil, List.head?_map] at first
      obtain ⟨blank, _, rfl⟩ := Option.map_eq_some_iff.mp first
      exact Or.inl blank.isAsciiBlank_char
  | cons lexeme later =>
      rw [layoutText_cons] at first
      cases spaced : blanks 0 with
      | nil =>
          rw [spaced] at first
          cases lexeme with
          | mark sign =>
              rw [← Option.some.inj first]
              cases sign <;> exact Or.inr rfl
          | key | string | number | flag | null => exact absurd (marked _ rfl) nofun
      | cons blank others =>
          rw [spaced] at first
          rw [← Option.some.inj first]
          exact Or.inl blank.isAsciiBlank_char

/-- No word stands behind a mark. -/
theorem Lexeme.any_getLast?_of_isMark {lexeme : Lexeme} (marked : lexeme.isMark = true) :
    lexeme.text.getLast?.any isWordChar = false := by
  cases lexeme with
  | mark sign => cases sign <;> rfl
  | key | string | number | flag | null => contradiction

/-- What stands behind a lexeme that has only adjacent neighbours up to a comma. -/
theorem Lexeme.neighbours {lexeme : Lexeme} {later : List Lexeme}
    (chained : (lexeme :: (later ++ [mark .comma])).IsChain Adjacent) :
    lexeme.isKey = later.head?.any isColon ∧
      (lexeme.isMark = false → ∀ first ∈ later.head?, first.isMark = true) ∧
        (later ++ [mark .comma]).IsChain Adjacent := by
  cases later with
  | nil =>
      obtain ⟨⟨_, keyless⟩, rest⟩ := List.isChain_cons_cons.mp chained
      exact ⟨keyless, fun _ first absent => absurd absent (Option.not_mem_none first), rest⟩
  | cons next others =>
      obtain ⟨⟨marked, coloned⟩, rest⟩ := List.isChain_cons_cons.mp chained
      refine ⟨coloned, ?_, rest⟩
      intro unmarked first same
      rw [unmarked, Bool.false_or] at marked
      rw [← Option.some.inj same]
      exact marked

/-- The scan gives back the pieces of a layout, if a comma could stand behind its lexemes.
The induction goes along the lexemes; the one before a word is a mark, so that no word
character stands before a word. -/
theorem piecesFrom_layoutText (blanks : Nat → List Blank) (lexemes : List Lexeme)
    (afterWord : Bool)
    (chained : (lexemes ++ [Lexeme.mark .comma]).IsChain Lexeme.Adjacent)
    (opened : afterWord = true → ∀ first ∈ lexemes.head?, first.isMark = true) :
    piecesFrom true afterWord [] (layoutText blanks lexemes) = layout blanks lexemes := by
  induction lexemes generalizing blanks afterWord with
  | nil =>
      have ended : ∀ c ∈ ([] : Text).head?, isAsciiBlank c = false := nofun
      rw [layoutText_nil, ← List.append_nil ((blanks 0).map Blank.char),
        piecesFrom_blanks (blanks 0) ended, piecesFrom]
      exact List.append_nil _
  | cons lexeme later inductionHypothesis =>
      obtain ⟨coloned, separated, laterChained⟩ := Lexeme.neighbours chained
      let behind : Nat → List Blank := fun count => blanks (count + 1)
      have spaced : lexeme.isMark = false → (afterWord && (blanks 0).isEmpty) = false := by
        intro unmarked
        cases afterWord with
        | false => rfl
        | true => rw [opened rfl lexeme rfl] at unmarked; contradiction
      have ended : lexeme.isMark = false → Separates (layoutText behind later) :=
        fun unmarked => separates_layoutText behind (separated unmarked)
      have key : lexeme.isKey = beforeColon (layoutText behind later) := by
        rw [beforeColon_layoutText, coloned]
      have laterOpened : lexeme.text.getLast?.any isWordChar = true →
          ∀ first ∈ later.head?, first.isMark = true := by
        intro word
        apply separated
        cases marked : lexeme.isMark with
        | false => rfl
        | true => rw [Lexeme.any_getLast?_of_isMark marked] at word; contradiction
      rw [layoutText_cons, piecesFrom_blanks _ (lexeme.head_text_append _),
        piecesFrom_append lexeme.text_ne_nil (lexeme.lexeme?_append spaced ended key),
        inductionHypothesis behind _ laterChained laterOpened]
      rfl

/-- A comma could stand behind a value, since the value could stand between two of them. -/
theorem Value.isChain_lexemes_comma (value : Value) :
    (value.lexemes ++ [Lexeme.mark .comma]).IsChain Lexeme.Adjacent := by
  have between : (Lexeme.mark .comma :: (value.lexemes ++ [Lexeme.mark .comma])).IsChain
      Lexeme.Adjacent :=
    value.isChain_lexemes rfl rfl rfl (.singleton _)
  exact between.tail

/-- The scan gives back the pieces of a written value. -/
theorem pieces_layoutText (value : Value) (blanks : Nat → List Blank) :
    pieces (layoutText blanks value.lexemes) = layout blanks value.lexemes :=
  piecesFrom_layoutText blanks value.lexemes false value.isChain_lexemes_comma nofun

theorem ne_nil_of_mem_layout (blanks : Nat → List Blank) (lexemes : List Lexeme) :
    ∀ piece ∈ layout blanks lexemes, piece.text ≠ [] := by
  intro piece member
  rcases mem_layout member with ⟨run, filled, rfl⟩ | ⟨lexeme, _, rfl⟩
  · exact fun vanished => filled (List.map_eq_nil_iff.mp vanished)
  · exact lexeme.text_ne_nil

/-- The scan for JSON classifies a document exactly, for every value and every choice of
blanks between its lexemes.  The tokens are the pieces of the layout; without its blanks
they are the lexemes of the value in their order, each with its own class.  No two
neighbours are both white space, so each run of blanks is one token, and nothing is left as
plain text. -/
theorem tokens_of_document (value : Value) (blanks : Nat → List Blank) :
    let found := (tokens (layoutText blanks value.lexemes)).map Token.piece
    found = layout blanks value.lexemes ∧
      found.filter (·.cls != .whitespace) = value.lexemes.map Lexeme.piece ∧
      found.IsChain (fun first second => ¬(first.cls = .whitespace ∧ second.cls = .whitespace)) ∧
      ∀ piece ∈ found, piece.cls ≠ .identifier := by
  intro found
  have pieces_eq : found = layout blanks value.lexemes := by
    rw [← pieces_layoutText]
    apply Token.map_piece_layout
    rw [pieces_layoutText]
    exact ne_nil_of_mem_layout blanks value.lexemes
  rw [pieces_eq]
  exact ⟨rfl, filter_layout blanks value.lexemes, isChain_layout blanks value.lexemes,
    ne_identifier_of_mem_layout blanks value.lexemes⟩

end Json

end Highlighter
