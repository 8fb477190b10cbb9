import Highlighter.Proofs.Places
import Highlighter.Proofs.StandardRules

/-!
# Queries are scanned without regard to the case of letters

Folding puts the ASCII letters of a text into capitals.  No search of the rules can tell a text
from the folded one: word characters, digits and blanks stay what they are, the marks that are
looked for are no letters, and an exponent may be written with either letter.  Only the vocabulary
could tell, and that of queries looks up capitals alone.

So the scan of a folded text makes the folded tokens of the text, at the same places.  Two texts
that differ in the case of letters only are folded to the same text.
-/

namespace Highlighter

/-! ## Letters -/

/-- The small ASCII letters. -/
def smallLetters : Text :=
  ['a', 'b', 'c', 'd', 'e', 'f', 'g', 'h', 'i', 'j', 'k', 'l', 'm', 'n', 'o', 'p', 'q', 'r', 's',
    't', 'u', 'v', 'w', 'x', 'y', 'z']

/-- A character that is no small letter stays itself in capitals. -/
theorem toUpper_eq_self_or_mem (c : Char) : c.toUpper = c ∨ c ∈ smallLetters := by
  by_cases letter : 'a'.val ≤ c.val ∧ c.val ≤ 'z'.val
  · right
    have listed : ∀ code < 123, 97 ≤ code → Char.ofNat code ∈ smallLetters := by decide
    have least : 97 ≤ c.toNat := UInt32.le_iff_toNat_le.mp letter.1
    have greatest : c.toNat ≤ 122 := UInt32.le_iff_toNat_le.mp letter.2
    rw [← Char.ofNat_toNat c]
    exact listed c.toNat (Nat.lt_succ_of_le greatest) least
  · left
    exact dif_neg letter

/-- What tells no small letter from its capital tells no character from it. -/
theorem toUpper_unseen {α : Type} {seen : Char → α}
    (unseen : smallLetters.map (fun c => seen c.toUpper) = smallLetters.map seen) (c : Char) :
    seen c.toUpper = seen c := by
  rcases toUpper_eq_self_or_mem c with same | small
  · rw [same]
  · exact List.map_inj_left.mp unseen c small

@[simp]
theorem isWordChar_toUpper (c : Char) : isWordChar c.toUpper = isWordChar c :=
  toUpper_unseen (by decide) c

@[simp]
theorem isDigit_toUpper (c : Char) : c.toUpper.isDigit = c.isDigit :=
  toUpper_unseen (by decide) c

@[simp]
theorem isAsciiBlank_toUpper (c : Char) : isAsciiBlank c.toUpper = isAsciiBlank c :=
  toUpper_unseen (by decide) c

@[simp]
theorem ofChar?_toUpper (c : Char) : Quote.ofChar? c.toUpper = Quote.ofChar? c :=
  toUpper_unseen (by decide) c

@[simp]
theorem capitals_toUpper (c : Char) : capitals c.toUpper = capitals c :=
  toUpper_unseen (by decide) c

@[simp]
theorem isAlpha_toUpper (c : Char) : c.toUpper.isAlpha = c.isAlpha :=
  toUpper_unseen (by decide) c

/-- A character is in capitals what it is, if that is no letter. -/
theorem toUpper_eq_iff {mark c : Char} (caseless : mark.isAlpha = false) :
    c.toUpper = mark ↔ c = mark := by
  rcases toUpper_eq_self_or_mem c with same | small
  · rw [same]
  · have letters : smallLetters.all Char.isAlpha = true := by decide
    have letter : c.isAlpha = true := List.all_eq_true.mp letters c small
    constructor
    · rintro rfl
      rw [isAlpha_toUpper, letter] at caseless
      contradiction
    · rintro rfl
      rw [letter] at caseless
      contradiction

theorem beq_toUpper {mark : Char} (caseless : mark.isAlpha = false) (c : Char) :
    (c.toUpper == mark) = (c == mark) := by
  rw [Bool.eq_iff_iff, beq_iff_eq, beq_iff_eq, toUpper_eq_iff caseless]

/-- An exponent starts with a letter in either case. -/
@[simp]
theorem isExponentLetter_toUpper (c : Char) :
    (c.toUpper = 'e' || c.toUpper = 'E') = (c = 'e' || c = 'E') :=
  @toUpper_unseen Bool (fun c => c = 'e' || c = 'E') (by decide) c

namespace Text

/-! ## Searches -/

/-- A text with its ASCII letters in capitals. -/
def foldCase (text : Text) : Text :=
  text.map Char.toUpper

@[simp]
theorem foldCase_nil : foldCase [] = [] :=
  rfl

@[simp]
theorem foldCase_cons (c : Char) (rest : Text) :
    foldCase (c :: rest) = c.toUpper :: foldCase rest :=
  rfl

@[simp]
theorem foldCase_append (first second : Text) :
    foldCase (first ++ second) = foldCase first ++ foldCase second :=
  List.map_append

@[simp]
theorem length_foldCase (text : Text) : text.foldCase.length = text.length :=
  List.length_map _

theorem take_foldCase (count : Nat) (text : Text) :
    text.foldCase.take count = foldCase (text.take count) :=
  List.map_take.symm

@[simp]
theorem drop_foldCase (count : Nat) (text : Text) :
    text.foldCase.drop count = foldCase (text.drop count) :=
  List.map_drop.symm

theorem any_head?_foldCase {belongs : Char → Bool} (unseen : ∀ c, belongs c.toUpper = belongs c)
    (text : Text) : text.foldCase.head?.any belongs = text.head?.any belongs := by
  cases text with
  | nil => rfl
  | cons c rest => exact unseen c

section

variable {belongs : Char → Bool} (unseen : ∀ c, belongs c.toUpper = belongs c) (text : Text)

include unseen

theorem takeWhile_foldCase :
    text.foldCase.takeWhile belongs = foldCase (text.takeWhile belongs) := by
  rw [foldCase, List.takeWhile_map, show belongs ∘ Char.toUpper = belongs from funext unseen]
  rfl

theorem dropWhile_foldCase :
    text.foldCase.dropWhile belongs = foldCase (text.dropWhile belongs) := by
  rw [foldCase, List.dropWhile_map, show belongs ∘ Char.toUpper = belongs from funext unseen]
  rfl

theorem countWhile_foldCase : text.foldCase.countWhile belongs = text.countWhile belongs := by
  rw [countWhile, takeWhile_foldCase unseen, length_foldCase]
  rfl

end

/-- A part without letters is found in front of a folded text where it is in front of the text. -/
theorem isPrefixOf_foldCase {part : Text} (caseless : part.any Char.isAlpha = false)
    (text : Text) : part.isPrefixOf text.foldCase = part.isPrefixOf text := by
  induction part generalizing text with
  | nil => rfl
  | cons mark others inductionHypothesis =>
      rw [List.any_cons, Bool.or_eq_false_iff] at caseless
      rcases caseless with ⟨here, later⟩
      cases text with
      | nil => rfl
      | cons c rest =>
          have same : (mark == c.toUpper) = (mark == c) := by
            rw [BEq.comm, beq_toUpper here, BEq.comm]
          rw [foldCase_cons, List.isPrefixOf_cons_cons, List.isPrefixOf_cons_cons, same,
            inductionHypothesis later]

theorem lengthThrough?_foldCase {part : Text} (caseless : part.any Char.isAlpha = false)
    (text : Text) : lengthThrough? part text.foldCase = lengthThrough? part text := by
  induction text with
  | nil => rfl
  | cons c rest inductionHypothesis =>
      rw [foldCase_cons, lengthThrough?, lengthThrough?, ← foldCase_cons,
        isPrefixOf_foldCase caseless, inductionHypothesis]

theorem lineLength_foldCase (text : Text) : text.foldCase.lineLength = text.lineLength := by
  apply countWhile_foldCase
  intro c
  rw [bne, bne, beq_toUpper (by decide)]

theorem lastLineLength_foldCase (text : Text) :
    text.foldCase.lastLineLength = text.lastLineLength := by
  have reversed : text.foldCase.reverse = foldCase text.reverse := List.map_reverse.symm
  rw [lastLineLength, reversed]
  exact lineLength_foldCase text.reverse

theorem count_foldCase {mark : Char} (caseless : mark.isAlpha = false) (text : Text) :
    text.foldCase.count mark = text.count mark := by
  have same : (· == mark) ∘ Char.toUpper = (· == mark) := funext (beq_toUpper caseless)
  rw [List.count_eq_countP, List.count_eq_countP, foldCase, List.countP_map, same]

theorem upperCase_foldCase (text : Text) : text.foldCase.upperCase = text.upperCase := by
  simp [upperCase, foldCase, List.flatMap_map]

end Text

namespace Numeral

theorem digitCount_foldCase (text : Text) : digitCount text.foldCase = digitCount text :=
  text.countWhile_foldCase isDigit_toUpper

theorem fractionLength_foldCase (text : Text) :
    fractionLength text.foldCase = fractionLength text := by
  cases text with
  | nil => rfl
  | cons c rest =>
      have point : c.toUpper = '.' ↔ c = '.' := toUpper_eq_iff (by decide)
      simp only [Text.foldCase_cons, fractionLength, point, digitCount_foldCase]

theorem signedLength_foldCase (text : Text) : signedLength text.foldCase = signedLength text := by
  cases text with
  | nil => rfl
  | cons c rest =>
      have plus : c.toUpper = '+' ↔ c = '+' := toUpper_eq_iff (by decide)
      have minus : c.toUpper = '-' ↔ c = '-' := toUpper_eq_iff (by decide)
      have digits := digitCount_foldCase (c :: rest)
      rw [Text.foldCase_cons] at digits
      simp only [Text.foldCase_cons, signedLength, plus, minus, digitCount_foldCase, digits]

theorem exponentLength_foldCase (text : Text) :
    exponentLength text.foldCase = exponentLength text := by
  cases text with
  | nil => rfl
  | cons c rest =>
      simp only [Text.foldCase_cons, exponentLength, isExponentLetter_toUpper,
        signedLength_foldCase]

theorem length_foldCase (text : Text) : length text.foldCase = length text := by
  simp only [length, digitCount_foldCase, Text.drop_foldCase, fractionLength_foldCase,
    exponentLength_foldCase]

end Numeral

namespace Quote

theorem mark_caseless (quote : Quote) : quote.mark.isAlpha = false := by
  cases quote <;> decide

theorem closingLength?_foldCase (quote : Quote) (text : Text) :
    quote.closingLength? text.foldCase = quote.closingLength? text := by
  have closing (c : Char) : c.toUpper = quote.mark ↔ c = quote.mark :=
    toUpper_eq_iff quote.mark_caseless
  have escaping (c : Char) : c.toUpper = '\\' ↔ c = '\\' := toUpper_eq_iff (by decide)
  fun_induction closingLength? quote text with
  | case1 => rfl
  | case2 => simp [closingLength?, closing]
  | case3 c other => simp [closingLength?, closing, other]
  | case4 d rest => simp [closingLength?, closing]
  | case5 d rest other inductionHypothesis =>
      simp [closingLength?, other, inductionHypothesis]
  | case6 c d rest other plain inductionHypothesis =>
      rw [Text.foldCase_cons] at inductionHypothesis
      simp [closingLength?, closing, escaping, other, plain, inductionHypothesis]

theorem stringLength?_foldCase (quote : Quote) (text : Text) :
    quote.stringLength? text.foldCase = quote.stringLength? text := by
  cases text with
  | nil => rfl
  | cons c rest =>
      simp only [Text.foldCase_cons, stringLength?, toUpper_eq_iff quote.mark_caseless,
        closingLength?_foldCase]

theorem openLength_foldCase (quote : Quote) (rest : Text) :
    quote.openLength rest.foldCase = quote.openLength rest := by
  cases quote <;> simp only [openLength, Text.length_foldCase, Text.lineLength_foldCase]

end Quote

/-! ## What the rules take -/

/-- A dialect cannot tell the case of letters: its line marker has none, and its vocabulary knows a
word by the folded one. -/
structure Dialect.IgnoresCase (dialect : Dialect) : Prop where
  marker : dialect.comments.lineMarker.any Char.isAlpha = false
  keywords : ∀ word : Text,
    dialect.vocabulary.isKeyword word.foldCase = dialect.vocabulary.isKeyword word
  types : ∀ word : Text, dialect.vocabulary.isType word.foldCase = dialect.vocabulary.isType word

theorem ignoresCase_sql : Dialect.sql.IgnoresCase where
  marker := by decide
  keywords word := by
    change List.contains _ (String.ofList word.foldCase.upperCase) =
      List.contains _ (String.ofList word.upperCase)
    rw [Text.upperCase_foldCase]
  types word := rfl

namespace ScanRule

theorem wordLength_foldCase (text : Text) : wordLength text.foldCase = wordLength text :=
  text.countWhile_foldCase isWordChar_toUpper

theorem wordLengthIf_foldCase {belongs : Text → Bool}
    (unseen : ∀ word : Text, belongs word.foldCase = belongs word) (text : Text) :
    wordLengthIf belongs text.foldCase = wordLengthIf belongs text := by
  simp only [wordLengthIf, Text.takeWhile_foldCase isWordChar_toUpper, unseen, wordLength_foldCase]

theorem commentLength_foldCase {comments : CommentStyle}
    (caseless : comments.lineMarker.any Char.isAlpha = false) (text : Text) :
    commentLength comments text.foldCase = commentLength comments text := by
  have opening : ['/', '*'].any Char.isAlpha = false := by decide
  have closing : ['*', '/'].any Char.isAlpha = false := by decide
  simp only [commentLength, Text.isPrefixOf_foldCase caseless, Text.isPrefixOf_foldCase opening,
    Text.drop_foldCase, Text.lengthThrough?_foldCase closing, Text.lineLength_foldCase,
    Text.length_foldCase]

theorem numberLength_foldCase (text : Text) : numberLength text.foldCase = numberLength text := by
  simp only [numberLength, Numeral.length_foldCase, Text.drop_foldCase,
    Text.any_head?_foldCase isWordChar_toUpper]

theorem callLength_foldCase (text : Text) : callLength text.foldCase = callLength text := by
  have opening (rest : Text) : rest.foldCase.head? = some '(' ↔ rest.head? = some '(' := by
    cases rest with
    | nil => simp
    | cons c later => simp [toUpper_eq_iff]
  simp only [callLength, Text.dropWhile_foldCase isWordChar_toUpper, opening, wordLength_foldCase]

variable {dialect : Dialect}

/-- Every rule takes as much of a folded text as of the text. -/
theorem freshExtent_foldCase (ignores : dialect.IgnoresCase) (c : Char) (rest : Text)
    (rule : ScanRule) :
    rule.freshExtent dialect c.toUpper rest.foldCase = rule.freshExtent dialect c rest := by
  have whole : c.toUpper :: rest.foldCase = Text.foldCase (c :: rest) := rfl
  unfold freshExtent extent
  cases rule with
  | string =>
      change (stringLength .empty 0 c.toUpper rest.foldCase).1 = (stringLength .empty 0 c rest).1
      cases opening : Quote.ofChar? c with
      | none =>
          unfold stringLength
          rw [ofChar?_toUpper, opening]
      | some quote =>
          have opened : c = quote.mark := (Quote.ofChar?_eq_some_iff.mp opening).symm
          have same : c.toUpper = quote.mark := (toUpper_eq_iff quote.mark_caseless).mpr opened
          rw [fst_stringLength_empty same, fst_stringLength_empty opened, whole,
            Quote.stringLength?_foldCase, Quote.openLength_foldCase]
  | comment => exact commentLength_foldCase ignores.marker (c :: rest)
  | keyword => exact wordLengthIf_foldCase ignores.keywords (c :: rest)
  | type => exact wordLengthIf_foldCase ignores.types (c :: rest)
  | number => exact numberLength_foldCase (c :: rest)
  | functionCall => exact callLength_foldCase (c :: rest)
  | identifier => exact wordLength_foldCase (c :: rest)
  | punctuation => simp only [isWordChar_toUpper, isAsciiBlank_toUpper]
  | whitespace => exact Text.countWhile_foldCase isAsciiBlank_toUpper (c :: rest)

end ScanRule

/-! ## The whole scan -/

/-- A piece with its letters in capitals. -/
def Piece.foldCase (piece : Piece) : Piece :=
  ⟨piece.cls, piece.text.foldCase⟩

/-- A token with its letters in capitals, at its place. -/
def Token.foldCase (token : Token) : Token :=
  ⟨token.cls, token.text.foldCase, token.span⟩

/-- Letters in capitals reach the position that the letters reach. -/
theorem Position.after_foldCase (text : Text) : Position.after text.foldCase = .after text := by
  rw [after, after, Text.count_foldCase (by decide), Text.lastLineLength_foldCase,
    Text.length_foldCase]

namespace Code

variable {dialect : Dialect} (ignores : dialect.IgnoresCase) (order : List ScanRule)

include ignores

/-- The first rule that applies to a text applies to the folded one. -/
theorem freshSlice_foldCase (c : Char) (rest : Text) :
    freshSlice dialect c.toUpper rest.foldCase order = freshSlice dialect c rest order :=
  freshSlice_congr fun rule _ => ScanRule.freshExtent_foldCase ignores c rest rule

theorem freshPieces_foldCase (text : Text) :
    freshPieces dialect order text.foldCase =
      (freshPieces dialect order text).map Piece.foldCase := by
  fun_induction freshPieces dialect order text with
  | case1 => rw [Text.foldCase_nil, freshPieces, List.map_nil]
  | case2 c rest cls further decided inductionHypothesis =>
      rw [Text.foldCase_cons, freshPieces, freshSlice_foldCase ignores order, decided]
      simp only [Text.drop_foldCase, Text.take_foldCase, inductionHypothesis]
      rfl

end Code

/-- Tokens that cover a text cover the folded one when they are folded. -/
theorem Token.PartitionAfter.foldCase {before text : Text} {tokens : List Token}
    (covered : PartitionAfter before text tokens) :
    PartitionAfter before.foldCase text.foldCase (tokens.map Token.foldCase) := by
  induction tokens generalizing before text with
  | nil =>
      rw [show text = [] from covered]
      rfl
  | cons token later inductionHypothesis =>
      rcases covered with ⟨filled, placed, rest, rfl, restCovered⟩
      have laterCovered := inductionHypothesis restCovered
      rw [Text.foldCase_append] at laterCovered
      have foldedPlaced : token.span =
          ⟨.after before.foldCase, .after (before.foldCase ++ token.text.foldCase)⟩ := by
        rw [← Text.foldCase_append, Position.after_foldCase, Position.after_foldCase, placed]
      have foldedFilled : token.text.foldCase ≠ [] := fun emptied =>
        filled (List.map_eq_nil_iff.mp emptied)
      exact ⟨foldedFilled, foldedPlaced, rest.foldCase, Text.foldCase_append _ _, laterCovered⟩

/-- The tokens of a folded text are the folded tokens of the text. -/
theorem Code.tokens_foldCase {dialect : Dialect} (ignores : dialect.IgnoresCase)
    (order : List ScanRule) (text : Text) :
    tokens dialect order text.foldCase = (tokens dialect order text).map Token.foldCase := by
  apply (partition_tokens dialect order text.foldCase).eq_of_pieces
    (partition_tokens dialect order text).foldCase
  have folded : Token.piece ∘ Token.foldCase = Piece.foldCase ∘ Token.piece := rfl
  rw [map_piece_tokens, freshPieces_foldCase ignores, ← map_piece_tokens, List.map_map,
    List.map_map, folded]

/-! ## Texts that differ in case alone -/

/-- Two texts are of the same length and differ at most in the case of their ASCII letters. -/
def Text.SameLetters (first second : Text) : Prop :=
  List.Forall₂ (fun c d => c.toUpper = d.toUpper) first second

/-- Two tokens are of the same class at the same stretch, and differ at most in the case of their
letters. -/
structure Token.SameLetters (token other : Token) : Prop where
  cls_eq : token.cls = other.cls
  span_eq : token.span = other.span
  letters : token.text.SameLetters other.text

/-- Lists are mapped to the same one where their elements are, one by one. -/
theorem forall₂_map_eq_iff {α β : Type} {image : α → β} {first second : List α} :
    List.Forall₂ (fun a b => image a = image b) first second ↔
      first.map image = second.map image := by
  rw [← List.forall₂_map_right_iff, ← List.forall₂_map_left_iff, List.forall₂_eq_eq_eq]

theorem Text.sameLetters_iff {first second : Text} :
    first.SameLetters second ↔ first.foldCase = second.foldCase :=
  forall₂_map_eq_iff

theorem Token.sameLetters_of_foldCase {token other : Token}
    (same : token.foldCase = other.foldCase) : token.SameLetters other := by
  rcases Token.mk.inj same with ⟨classes, letters, places⟩
  exact ⟨classes, places, Text.sameLetters_iff.mpr letters⟩

/-- Queries are scanned without regard to the case of letters: texts that differ in it alone have
their tokens of the same classes at the same places. -/
theorem queries_ignore_letter_case {first second : Text} (same : first.SameLetters second) :
    List.Forall₂ Token.SameLetters (highlight first (some .sql))
      (highlight second (some .sql)) := by
  have folded : (Code.tokens .sql ScanRule.standard first).map Token.foldCase =
      (Code.tokens .sql ScanRule.standard second).map Token.foldCase := by
    rw [← Code.tokens_foldCase ignoresCase_sql, ← Code.tokens_foldCase ignoresCase_sql,
      Text.sameLetters_iff.mp same]
  exact (forall₂_map_eq_iff.mpr folded).imp fun _ _ => Token.sameLetters_of_foldCase

/-- In `Select f(1E5) -- x` the capitals may change their places. -/
theorem queries_ignore_letter_case_swapped :
    let first : Text := "Select f(1E5) -- x".toList
    let second : Text := "sELECT F(1e5) -- X".toList
    first.SameLetters second ∧
      List.Forall₂ Token.SameLetters (highlight first (some .sql)) (highlight second (some .sql)) ∧
        (highlight first (some .sql)).map (·.cls) =
          [.keyword, .whitespace, .functionCall, .punctuation, .number, .punctuation, .whitespace,
            .comment] := by
  intro first second
  have same : first.SameLetters second := Text.sameLetters_iff.mpr (by decide)
  refine ⟨same, queries_ignore_letter_case same, ?_⟩
  decide +kernel

end Highlighter
