import Highlighter.Proofs.Delimiters

/-!
# Where tokens end depends on the comments alone

The vocabulary of a dialect decides only between the classes of words.  Where a word starts with a
letter or an underscore, every rule for words ends where the word does, whichever of them applies.
A word that starts with a digit belongs to no vocabulary, and nothing else is looked up in one.

So two scans of a text stay in step when their dialects mark comments alike: turn after turn they
cut off the same slice, and their classes differ at most between the classes of words.
-/

namespace Highlighter

/-- The classes of words, between which a vocabulary decides. -/
def TokenClass.forWords : List TokenClass :=
  [.keyword, .type, .functionCall, .identifier]

/-- Two classes are the same, or both are classes of words. -/
def TokenClass.Akin (first second : TokenClass) : Prop :=
  first = second ∨ first ∈ forWords ∧ second ∈ forWords

/-- Two pieces have the same text, and akin classes. -/
structure Piece.Aligned (piece other : Piece) : Prop where
  text_eq : piece.text = other.text
  akin : piece.cls.Akin other.cls

/-- Two tokens have the same text at the same stretch, and akin classes. -/
structure Token.Aligned (token other : Token) : Prop where
  text_eq : token.text = other.text
  span_eq : token.span = other.span
  akin : token.cls.Akin other.cls

/-- No word of a vocabulary starts with a digit. -/
def Vocabulary.NoLeadingDigit (vocabulary : Vocabulary) : Prop :=
  ∀ word ∈ vocabulary.keywords ++ vocabulary.types, word.toList.head?.any Char.isDigit = false

/-! ## Words that start with a digit -/

/-- A digit has no other capital. -/
theorem capitals_of_isDigit {c : Char} (digit : c.isDigit = true) : capitals c = [c] := by
  simp only [Char.isDigit, Bool.and_eq_true, decide_eq_true_eq, UInt32.le_iff_toNat_le] at digit
  have ascii : c.toNat < 0x80 := Nat.lt_of_le_of_lt digit.2 (by decide)
  have noLetter : ¬('a'.val ≤ c.val ∧ c.val ≤ 'z'.val) := by
    rintro ⟨letter, _⟩
    exact absurd (Nat.le_trans letter digit.2) (by decide)
  have same : c.toUpper = c := dif_neg noLetter
  rw [capitals, if_pos ascii, same]

namespace Vocabulary.NoLeadingDigit

variable {vocabulary : Vocabulary} {c : Char}

/-- A text that starts with a digit is none of the words. -/
theorem contains_eq_false (undigited : vocabulary.NoLeadingDigit) {words : List String}
    (listed : words ⊆ vocabulary.keywords ++ vocabulary.types) (digit : c.isDigit = true)
    {written : Text} (starts : written.head? = some c) :
    words.contains (String.ofList written) = false := by
  rw [List.contains_eq_mem, decide_eq_false_iff_not]
  intro member
  have other := undigited _ (listed member)
  rw [String.toList_ofList, starts, Option.any_some, digit] at other
  contradiction

theorem isKeyword_eq_false (undigited : vocabulary.NoLeadingDigit) (digit : c.isDigit = true)
    (later : Text) : vocabulary.isKeyword (c :: later) = false := by
  apply undigited.contains_eq_false (List.subset_append_left _ _) digit
  split
  · rw [Text.upperCase, List.flatMap_cons, capitals_of_isDigit digit]
    rfl
  · rfl

theorem isType_eq_false (undigited : vocabulary.NoLeadingDigit) (digit : c.isDigit = true)
    (later : Text) : vocabulary.isType (c :: later) = false :=
  undigited.contains_eq_false (List.subset_append_right _ _) digit rfl

end Vocabulary.NoLeadingDigit

namespace Code

open ScanRule

/-! ## The slices at one place -/

variable {dialect first second : Dialect} {c : Char} {rest : Text} {cls : TokenClass} {length : Nat}

/-- No word of the vocabulary is taken where no word starts, or one with a digit in front. -/
theorem reserved_of_noLetter (undigited : dialect.vocabulary.NoLeadingDigit)
    (noLetter : isWordChar c = true → c.isDigit = true) {rule : ScanRule}
    (reserved : rule = .keyword ∨ rule = .type) : rule.freshExtent dialect c rest = 0 := by
  cases word : isWordChar c with
  | false =>
      apply freshExtent_of_noWord word
      rcases reserved with rfl | rfl <;> decide
  | true =>
      have starts : wordAt (c :: rest) = c :: wordAt rest := List.takeWhile_cons_of_pos word
      rcases reserved with rfl | rfl
      · apply wordLengthIf_of_unknown
        rw [starts]
        exact undigited.isKeyword_eq_false (noLetter word) _
      · apply wordLengthIf_of_unknown
        rw [starts]
        exact undigited.isType_eq_false (noLetter word) _

/-- Where a word starts with no digit, the rules take a comment if there is one, and else the
word. -/
theorem Takes.of_letter (takes : Takes dialect c rest cls length) (word : isWordChar c = true)
    (letter : c.isDigit = false) :
    (cls = .comment ∧ commentLength dialect.comments (c :: rest) ≠ 0 ∧
        length = commentLength dialect.comments (c :: rest)) ∨
      cls ∈ TokenClass.forWords ∧ commentLength dialect.comments (c :: rest) = 0 ∧
        length = wordLength (c :: rest) := by
  cases takes with
  | @string quote opened =>
      rw [opened, (mark_unlike quote).1] at word
      contradiction
  | comment _ marked => exact Or.inl ⟨rfl, marked, rfl⟩
  | keyword starts | type starts =>
      exact Or.inr ⟨by decide, starts.uncommented, rfl⟩
  | number starts numbered =>
      rw [numberLength, Numeral.length_cons_eq_zero letter, ite_self] at numbered
      contradiction
  | functionCall starts | identifier starts =>
      exact Or.inr ⟨by decide, starts.uncommented, rfl⟩
  | punctuation _ noWord =>
      rw [noWord] at word
      contradiction
  | whitespace _ blank =>
      rw [isWordChar_eq_false_of_isAsciiBlank blank] at word
      contradiction

/-- At one place, dialects with the same comments cut off the same slice of akin classes. -/
theorem aligned_freshSlice (comments : first.comments = second.comments)
    (firstUndigited : first.vocabulary.NoLeadingDigit)
    (secondUndigited : second.vocabulary.NoLeadingDigit) (c : Char) (rest : Text) :
    let slice := freshSlice first c rest standard
    let other := freshSlice second c rest standard
    slice.1.Akin other.1 ∧ slice.2 = other.2 := by
  by_cases letter : isWordChar c = true ∧ c.isDigit = false
  · rcases (takes_freshSlice first c rest).of_letter letter.1 letter.2 with
      ⟨comment, marked, extent⟩ | ⟨word, unmarked, extent⟩ <;>
    rcases (takes_freshSlice second c rest).of_letter letter.1 letter.2 with
      ⟨otherComment, otherMarked, otherExtent⟩ | ⟨otherWord, otherUnmarked, otherExtent⟩
    · rw [comments] at extent
      exact ⟨Or.inl (comment.trans otherComment.symm),
        Nat.succ.inj (extent.trans otherExtent.symm)⟩
    · rw [comments] at marked
      contradiction
    · rw [comments] at unmarked
      contradiction
    · exact ⟨Or.inr ⟨word, otherWord⟩, Nat.succ.inj (extent.trans otherExtent.symm)⟩
  · have noLetter : isWordChar c = true → c.isDigit = true := by
      intro word
      rw [← Bool.not_eq_false]
      exact fun other => letter ⟨word, other⟩
    have same : freshSlice first c rest standard = freshSlice second c rest standard := by
      apply freshSlice_congr
      intro rule _
      cases rule with
      | comment =>
          change commentLength first.comments _ = commentLength second.comments _
          rw [comments]
      | keyword | type =>
          rw [reserved_of_noLetter firstUndigited noLetter (by decide),
            reserved_of_noLetter secondUndigited noLetter (by decide)]
      | string | number | functionCall | identifier | punctuation | whitespace => rfl
    exact ⟨Or.inl (congrArg Prod.fst same), congrArg Prod.snd same⟩

/-! ## The whole scan -/

/-- Turn after turn the two scans cut off the same slice. -/
theorem aligned_freshPieces (comments : first.comments = second.comments)
    (firstUndigited : first.vocabulary.NoLeadingDigit)
    (secondUndigited : second.vocabulary.NoLeadingDigit) (text : Text) :
    List.Forall₂ Piece.Aligned (freshPieces first standard text)
      (freshPieces second standard text) := by
  fun_induction freshPieces first standard text with
  | case1 =>
      rw [freshPieces]
      exact List.Forall₂.nil
  | case2 c rest cls further decided inductionHypothesis =>
      have aligned := aligned_freshSlice comments firstUndigited secondUndigited c rest
      rw [decided] at aligned
      rw [freshPieces]
      generalize freshSlice second c rest standard = other at aligned ⊢
      rcases other with ⟨otherClass, otherFurther⟩
      obtain ⟨akin, rfl⟩ : cls.Akin otherClass ∧ further = otherFurther := aligned
      exact List.Forall₂.cons ⟨rfl, akin⟩ inductionHypothesis

end Code

/-- Partitions of a text into aligned pieces have aligned tokens. -/
theorem Token.PartitionAfter.aligned {before text : Text} {tokens others : List Token}
    (covered : PartitionAfter before text tokens) (otherCovered : PartitionAfter before text others)
    (aligned : List.Forall₂ (fun token other => token.piece.Aligned other.piece) tokens others) :
    List.Forall₂ Token.Aligned tokens others := by
  induction aligned generalizing before text with
  | nil => exact List.Forall₂.nil
  | @cons token other later laterOthers same _ inductionHypothesis =>
      rcases covered with ⟨_, placed, rest, rfl, restCovered⟩
      rcases otherCovered with ⟨_, otherPlaced, otherRest, split, otherRestCovered⟩
      have texts : token.text = other.text := same.text_eq
      rw [texts] at split placed restCovered
      rw [List.append_cancel_left split] at restCovered
      apply List.Forall₂.cons
      · exact ⟨texts, placed.trans otherPlaced.symm, same.akin⟩
      · exact inductionHypothesis restCovered otherRestCovered

namespace Code

open ScanRule

theorem aligned_tokens {first second : Dialect} (comments : first.comments = second.comments)
    (firstUndigited : first.vocabulary.NoLeadingDigit)
    (secondUndigited : second.vocabulary.NoLeadingDigit) (text : Text) :
    List.Forall₂ Token.Aligned (tokens first standard text) (tokens second standard text) := by
  apply (partition_tokens first standard text).aligned (partition_tokens second standard text)
  have pieces := aligned_freshPieces comments firstUndigited secondUndigited text
  rwa [← map_piece_tokens, ← map_piece_tokens, List.forall₂_map_left_iff,
    List.forall₂_map_right_iff] at pieces

end Code

theorem noLeadingDigit_of_ofLanguage? {language : Language} {dialect : Dialect}
    (builtIn : Dialect.ofLanguage? language = some dialect) :
    dialect.vocabulary.NoLeadingDigit := by
  unfold Vocabulary.NoLeadingDigit
  cases language <;> cases builtIn <;> decide +kernel

/-- Languages with the same comments have their tokens at the same places. -/
theorem aligned_highlight {language other : Language} {first second : Dialect}
    (builtIn : Dialect.ofLanguage? language = some first)
    (otherBuiltIn : Dialect.ofLanguage? other = some second)
    (comments : first.comments = second.comments) (text : Text) :
    List.Forall₂ Token.Aligned (highlight text (some language)) (highlight text (some other)) := by
  rw [highlight_of_ofLanguage? builtIn, highlight_of_ofLanguage? otherBuiltIn]
  apply Code.aligned_tokens comments
  · exact noLeadingDigit_of_ofLanguage? builtIn
  · exact noLeadingDigit_of_ofLanguage? otherBuiltIn

/-- The languages of a family are commented alike. -/
theorem exists_comments_of_family {family : List Language}
    (listed : family ∈ [[Language.rust, .javascript, .typescript, .dart], [.python, .shell]]) :
    ∃ comments, ∀ language ∈ family, ∃ dialect,
      Dialect.ofLanguage? language = some dialect ∧ dialect.comments = comments := by
  simp only [List.mem_cons, List.not_mem_nil, or_false] at listed
  rcases listed with rfl | rfl
  · refine ⟨⟨['/', '/'], true⟩, ?_⟩
    rintro language (_ | ⟨_, _ | ⟨_, _ | ⟨_, _ | ⟨_, ⟨⟩⟩⟩⟩⟩) <;> exact ⟨_, rfl, rfl⟩
  · refine ⟨⟨['#'], false⟩, ?_⟩
    rintro language (_ | ⟨_, _ | ⟨_, ⟨⟩⟩⟩) <;> exact ⟨_, rfl, rfl⟩

/-- Where tokens end depends on the comments alone.  Dialects with the same comments, and without
a word that starts with a digit, make tokens with the same texts at the same stretches, of classes
that differ at most between the classes of words.  Among the languages this holds of those that are
commented with two slashes, and of those that are commented with a number sign. -/
theorem boundaries_depend_on_comments (text : Text) :
    (∀ first second : Dialect, first.comments = second.comments →
        first.vocabulary.NoLeadingDigit → second.vocabulary.NoLeadingDigit →
          List.Forall₂ Token.Aligned (Code.tokens first ScanRule.standard text)
            (Code.tokens second ScanRule.standard text)) ∧
      ∀ family ∈ [[Language.rust, .javascript, .typescript, .dart], [.python, .shell]],
        ∀ first ∈ family, ∀ second ∈ family,
          List.Forall₂ Token.Aligned (highlight text (some first))
            (highlight text (some second)) := by
  constructor
  · intro first second comments firstUndigited secondUndigited
    exact Code.aligned_tokens comments firstUndigited secondUndigited text
  · intro family listed first member second otherMember
    rcases exists_comments_of_family listed with ⟨comments, commented⟩
    rcases commented first member with ⟨firstDialect, builtIn, firstComments⟩
    rcases commented second otherMember with ⟨secondDialect, otherBuiltIn, secondComments⟩
    exact aligned_highlight builtIn otherBuiltIn (firstComments.trans secondComments.symm) text

/-- In `if 1f(x) #f` a vocabulary of the capitals `X` and `F` makes a keyword of another word, and
takes neither `1f` nor the comment apart. -/
theorem boundaries_depend_on_comments_capitals :
    let text := "if 1f(x) #f".toList
    let other : Dialect := ⟨⟨["X", "F"], [], true⟩, Dialect.python.comments⟩
    Dialect.python.comments = other.comments ∧ Dialect.python.vocabulary.NoLeadingDigit ∧
      other.vocabulary.NoLeadingDigit ∧
        List.Forall₂ Token.Aligned (Code.tokens .python ScanRule.standard text)
          (Code.tokens other ScanRule.standard text) ∧
        (Code.tokens .python ScanRule.standard text).map (·.cls) ≠
          (Code.tokens other ScanRule.standard text).map (·.cls) := by
  intro text other
  have builtIn : Dialect.ofLanguage? .python = some .python := rfl
  have python : Dialect.python.vocabulary.NoLeadingDigit := noLeadingDigit_of_ofLanguage? builtIn
  have capitals : other.vocabulary.NoLeadingDigit := by
    unfold Vocabulary.NoLeadingDigit
    decide +kernel
  refine ⟨rfl, python, capitals, ?_, ?_⟩
  · exact (boundaries_depend_on_comments text).1 .python other rfl python capitals
  · decide +kernel

end Highlighter
