import Highlighter.Proofs.Restart

/-!
# What the standard rules take at one place

The rules are tried in their order, and the first that applies decides.  `Takes` says for each
rule when it is the one that decides, and how much it takes.  Every token of the scan is what
one of the rules takes of the text that is left where the token starts.
-/

namespace Highlighter

open ScanRule

/-- With nothing on record, a string is as long as the search says, wherever it is asked for. -/
theorem ScanRule.fst_stringLength_empty {c : Char} {quote : Quote} (opened : c = quote.mark)
    (offset : Nat) (rest : Text) :
    (stringLength .empty offset c rest).1 =
      (quote.stringLength? (c :: rest)).getD (quote.openLength rest) := by
  have opening : Quote.ofChar? c = some quote := by
    rw [opened, Quote.ofChar?_mark]
  rw [stringLength_eq opening, QuoteRecord.fst_stringLength?_empty]

/-- The rules for words, in their standard order. -/
def ScanRule.forWords : List ScanRule :=
  [keyword, type, number, functionCall, identifier]

namespace Code

/-- The word at the start of a text: the longest run of word characters there. -/
def wordAt (text : Text) : Text :=
  text.takeWhile isWordChar

/-- The word at the start of a text has no class of its own in the vocabulary. -/
structure OtherWord (dialect : Dialect) (text : Text) : Prop where
  noKeyword : dialect.vocabulary.isKeyword (wordAt text) = false
  noType : dialect.vocabulary.isType (wordAt text) = false

section

variable (dialect : Dialect) (c : Char) (rest : Text)

/-- No string and no comment starts a text. -/
structure Plain : Prop where
  unquoted : ∀ quote : Quote, c ≠ quote.mark
  uncommented : commentLength dialect.comments (c :: rest) = 0

/-- A word starts a text in which no string and no comment does. -/
structure StartsWord : Prop extends Plain dialect c rest where
  isWordChar : isWordChar c = true

/-- A word starts a text that is none of the vocabulary, and no string and no comment does. -/
structure StartsOtherWord : Prop extends StartsWord dialect c rest, OtherWord dialect (c :: rest)

/-- The class and the number of characters that the rules in their standard order take of a
text: one way for each rule, with what keeps the rules before it from applying. -/
inductive Takes : TokenClass → Nat → Prop where
  | string {quote : Quote} (opened : c = quote.mark) :
      Takes .string ((quote.stringLength? (c :: rest)).getD (quote.openLength rest))
  | comment (unquoted : ∀ quote : Quote, c ≠ quote.mark)
      (marked : commentLength dialect.comments (c :: rest) ≠ 0) :
      Takes .comment (commentLength dialect.comments (c :: rest))
  | keyword (starts : StartsWord dialect c rest)
      (known : dialect.vocabulary.isKeyword (wordAt (c :: rest)) = true) :
      Takes .keyword (wordLength (c :: rest))
  | type (starts : StartsWord dialect c rest)
      (noKeyword : dialect.vocabulary.isKeyword (wordAt (c :: rest)) = false)
      (known : dialect.vocabulary.isType (wordAt (c :: rest)) = true) :
      Takes .type (wordLength (c :: rest))
  | number (starts : StartsOtherWord dialect c rest)
      (numbered : numberLength (c :: rest) ≠ 0) :
      Takes .number (numberLength (c :: rest))
  | functionCall (starts : StartsOtherWord dialect c rest)
      (unnumbered : numberLength (c :: rest) = 0)
      (called : ((c :: rest).dropWhile isWordChar).head? = some '(') :
      Takes .functionCall (wordLength (c :: rest))
  | identifier (starts : StartsOtherWord dialect c rest)
      (unnumbered : numberLength (c :: rest) = 0)
      (uncalled : ((c :: rest).dropWhile isWordChar).head? ≠ some '(') :
      Takes .identifier (wordLength (c :: rest))
  | punctuation (plain : Plain dialect c rest) (noWord : isWordChar c = false)
      (noBlank : isAsciiBlank c = false) : Takes .punctuation 1
  | whitespace (plain : Plain dialect c rest) (blank : isAsciiBlank c = true) :
      Takes .whitespace (Text.countWhile isAsciiBlank (c :: rest))

end

variable {dialect : Dialect} {c : Char} {rest : Text} {later : List ScanRule}

/-! ## The first rule that applies -/

/-- A rule that does not apply is passed over. -/
theorem freshSlice_cons_of_eq_zero (rule : ScanRule)
    (absent : rule.freshExtent dialect c rest = 0) :
    freshSlice dialect c rest (rule :: later) = freshSlice dialect c rest later := by
  rw [freshSlice, absent]

/-- A rule that applies decides. -/
theorem takes_freshSlice_cons {rule : ScanRule} {length : Nat}
    (extent : rule.freshExtent dialect c rest = length)
    (positive : length ≠ 0) (takes : Takes dialect c rest rule.tokenClass length) :
    Takes dialect c rest (freshSlice dialect c rest (rule :: later)).1
      ((freshSlice dialect c rest (rule :: later)).2 + 1) := by
  obtain ⟨further, rfl⟩ := Nat.exists_eq_add_one_of_ne_zero positive
  rw [freshSlice, extent]
  exact takes

theorem freshExtent_string_eq_zero (unquoted : ∀ quote : Quote, c ≠ quote.mark) :
    ScanRule.string.freshExtent dialect c rest = 0 := by
  have unopened : Quote.ofChar? c = none := by
    rw [Option.eq_none_iff_forall_ne_some]
    intro quote opened
    exact unquoted quote (Quote.ofChar?_eq_some_iff.mp opened).symm
  change (stringLength .empty 0 c rest).1 = 0
  unfold stringLength
  rw [unopened]

theorem openLength_ne_zero (quote : Quote) (rest : Text) : quote.openLength rest ≠ 0 := by
  cases quote <;> exact Nat.succ_ne_zero _

/-- A string is never empty, whether it closes or not. -/
theorem stringExtent_ne_zero (quote : Quote) (text rest : Text) :
    (quote.stringLength? text).getD (quote.openLength rest) ≠ 0 := by
  cases found : quote.stringLength? text with
  | none => exact openLength_ne_zero quote rest
  | some length => exact Nat.pos_iff_ne_zero.mp (Quote.stringLength?_pos found)

theorem wordLengthIf_of_known {belongs : Text → Bool} {text : Text}
    (known : belongs (wordAt text) = true) : wordLengthIf belongs text = wordLength text :=
  if_pos known

theorem wordLengthIf_of_unknown {belongs : Text → Bool} {text : Text}
    (unknown : belongs (wordAt text) = false) : wordLengthIf belongs text = 0 :=
  if_neg (by rw [← wordAt, unknown]; exact Bool.false_ne_true)

/-- No rule for words applies where no word starts. -/
theorem freshExtent_of_noWord (noWord : isWordChar c = false) {rule : ScanRule}
    (named : rule ∈ forWords) : rule.freshExtent dialect c rest = 0 := by
  have wordless : wordLength (c :: rest) = 0 := Text.countWhile_cons_eq_zero noWord rest
  have reserved (belongs : Text → Bool) : wordLengthIf belongs (c :: rest) = 0 := by
    unfold wordLengthIf
    rw [wordless, ite_self]
  cases rule with
  | keyword | type => exact reserved _
  | number =>
      change numberLength (c :: rest) = 0
      rw [numberLength, Numeral.length_cons_eq_zero (isDigit_eq_false noWord), ite_self]
  | functionCall =>
      change callLength (c :: rest) = 0
      rw [callLength, wordless, ite_self]
  | identifier => exact wordless
  | string | comment | punctuation | whitespace => simp [forWords] at named

/-- Where a word starts, the five rules for words decide. -/
theorem takes_of_startsWord (starts : StartsWord dialect c rest) :
    let slice := freshSlice dialect c rest
      [.keyword, .type, .number, .functionCall, .identifier, .punctuation, .whitespace]
    Takes dialect c rest slice.1 (slice.2 + 1) := by
  have filled : wordLength (c :: rest) ≠ 0 :=
    Text.countWhile_cons_ne_zero starts.isWordChar rest
  cases keyword : dialect.vocabulary.isKeyword (wordAt (c :: rest)) with
  | true =>
      exact takes_freshSlice_cons (wordLengthIf_of_known keyword) filled (.keyword starts keyword)
  | false =>
      rw [freshSlice_cons_of_eq_zero .keyword (wordLengthIf_of_unknown keyword)]
      cases type : dialect.vocabulary.isType (wordAt (c :: rest)) with
      | true =>
          exact takes_freshSlice_cons (wordLengthIf_of_known type) filled
            (.type starts keyword type)
      | false =>
          have other : StartsOtherWord dialect c rest := ⟨starts, ⟨keyword, type⟩⟩
          rw [freshSlice_cons_of_eq_zero .type (wordLengthIf_of_unknown type)]
          by_cases unnumbered : numberLength (c :: rest) = 0
          · rw [freshSlice_cons_of_eq_zero .number unnumbered]
            by_cases called : ((c :: rest).dropWhile isWordChar).head? = some '('
            · exact takes_freshSlice_cons (if_pos called) filled
                (.functionCall other unnumbered called)
            · rw [freshSlice_cons_of_eq_zero .functionCall (if_neg called)]
              exact takes_freshSlice_cons rfl filled (.identifier other unnumbered called)
          · exact takes_freshSlice_cons rfl unnumbered (.number other unnumbered)

/-- Where no word, no string and no comment starts, there are blanks or one mark. -/
theorem takes_of_noWord (plain : Plain dialect c rest) (noWord : isWordChar c = false) :
    let slice := freshSlice dialect c rest
      [.keyword, .type, .number, .functionCall, .identifier, .punctuation, .whitespace]
    Takes dialect c rest slice.1 (slice.2 + 1) := by
  have absent {rule : ScanRule} (named : rule ∈ forWords) :
      rule.freshExtent dialect c rest = 0 := freshExtent_of_noWord noWord named
  rw [freshSlice_cons_of_eq_zero .keyword (absent (by decide)),
    freshSlice_cons_of_eq_zero .type (absent (by decide)),
    freshSlice_cons_of_eq_zero .number (absent (by decide)),
    freshSlice_cons_of_eq_zero .functionCall (absent (by decide)),
    freshSlice_cons_of_eq_zero .identifier (absent (by decide))]
  cases blank : isAsciiBlank c with
  | true =>
      have passed : ScanRule.punctuation.freshExtent dialect c rest = 0 := by
        simp only [freshExtent, extent, blank, Bool.or_true, if_true]
      rw [freshSlice_cons_of_eq_zero .punctuation passed]
      exact takes_freshSlice_cons rfl (Text.countWhile_cons_ne_zero blank rest)
        (.whitespace plain blank)
  | false =>
      have taken : ScanRule.punctuation.freshExtent dialect c rest = 1 := by
        simp only [freshExtent, extent, noWord, blank, Bool.or_false, Bool.false_eq_true, if_false]
      exact takes_freshSlice_cons taken Nat.one_ne_zero (.punctuation plain noWord blank)

/-- The standard rules take what `Takes` says. -/
theorem takes_freshSlice (dialect : Dialect) (c : Char) (rest : Text) :
    let slice := freshSlice dialect c rest standard
    Takes dialect c rest slice.1 (slice.2 + 1) := by
  unfold standard
  by_cases quoted : ∃ quote : Quote, c = quote.mark
  · obtain ⟨quote, opened⟩ := quoted
    exact takes_freshSlice_cons (fst_stringLength_empty opened 0 rest)
      (stringExtent_ne_zero quote _ rest) (.string opened)
  · have unquoted : ∀ quote : Quote, c ≠ quote.mark := fun quote same => quoted ⟨quote, same⟩
    rw [freshSlice_cons_of_eq_zero .string (freshExtent_string_eq_zero unquoted)]
    by_cases uncommented : commentLength dialect.comments (c :: rest) = 0
    · have plain : Plain dialect c rest := ⟨unquoted, uncommented⟩
      rw [freshSlice_cons_of_eq_zero .comment uncommented]
      cases word : isWordChar c with
      | true => exact takes_of_startsWord ⟨plain, word⟩
      | false => exact takes_of_noWord plain word
    · exact takes_freshSlice_cons rfl uncommented (.comment unquoted uncommented)

/-! ## Every token of a scan -/

theorem source_freshPieces (dialect : Dialect) (order : List ScanRule) (text : Text) :
    Piece.source (freshPieces dialect order text) = text := by
  rw [← pieces_eq_freshPieces]
  exact source_piecesFrom dialect order .empty 0 text

theorem further_freshSlice_le (dialect : Dialect) (order : List ScanRule) (c : Char)
    (rest : Text) : (freshSlice dialect c rest order).2 ≤ rest.length := by
  have sound : QuoteRecord.empty.SoundFor (c :: rest) := QuoteRecord.soundFor_empty (c :: rest)
  rw [(firstSlice_of_soundFor sound dialect 0 order).1]
  exact further_firstSlice_le dialect .empty 0 c rest order

/-- A piece of the scan is what the rules take of the text that is left where it starts. -/
theorem freshSlice_of_split {order : List ScanRule} {text : Text} {earlier later : List Piece}
    {piece : Piece} (split : freshPieces dialect order text = earlier ++ piece :: later) :
    ∃ c rest further, piece.text ++ Piece.source later = c :: rest ∧
      freshSlice dialect c rest order = (piece.cls, further) ∧
        piece.text.length = further + 1 := by
  fun_induction freshPieces dialect order text generalizing earlier with
  | case1 => cases earlier <;> contradiction
  | case2 c rest cls further decided inductionHypothesis =>
      cases earlier with
      | nil =>
          obtain ⟨rfl, rfl⟩ := List.cons.inj split
          have inside := further_freshSlice_le dialect order c rest
          rw [decided] at inside
          refine ⟨c, rest, further, ?_, decided, ?_⟩
          · rw [source_freshPieces, List.cons_append, List.take_append_drop]
          · rw [List.length_cons, List.length_take, Nat.min_eq_left inside]
      | cons first others => exact inductionHypothesis (List.cons.inj split).2

/-- A token of the scan by the standard rules is what one of them takes of the text that is
left where it starts. -/
theorem takes_of_split {text : Text} {earlier later : List Token} {token : Token}
    (split : tokens dialect standard text = earlier ++ token :: later) :
    ∃ c rest, token.text ++ Token.source later = c :: rest ∧
      Takes dialect c rest token.cls token.text.length := by
  have pieces := congrArg (List.map Token.piece) split
  rw [map_piece_tokens, List.map_append, List.map_cons] at pieces
  obtain ⟨c, rest, further, here, decided, extent⟩ := freshSlice_of_split pieces
  have takes := takes_freshSlice dialect c rest
  rw [decided] at takes
  have length_eq : token.text.length = further + 1 := extent
  rw [Token.source_eq_source_map_piece, length_eq]
  exact ⟨c, rest, here, takes⟩

end Code

end Highlighter
