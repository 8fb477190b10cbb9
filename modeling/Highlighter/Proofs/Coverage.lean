import Highlighter.Scan
import Mathlib.Data.List.TakeWhile

/-!
# Scans cover their texts

Laying pieces out keeps every character: the tokens partition the text that the pieces
make up, whether white space is joined or not.  It remains to see that the pieces of
each scan make up the text that was scanned, which is an induction along the scan.  Both
together give a partition for every language.
-/

namespace Highlighter

/-! ## Partitions -/

namespace Token.PartitionAfter

variable {before text : Text} {tokens : List Token}

/-- A partition is extended by a token that starts where the text ends. -/
theorem concat {token : Token} (covered : PartitionAfter before text tokens)
    (filled : token.text ≠ [])
    (placed : token.span = ⟨.after (before ++ text), .after (before ++ text ++ token.text)⟩) :
    PartitionAfter before (text ++ token.text) (tokens ++ [token]) := by
  induction tokens generalizing before text with
  | nil =>
      have ended : text = [] := covered
      subst ended
      rw [List.append_nil] at placed
      exact ⟨filled, placed, [], by simp, rfl⟩
  | cons first later inductionHypothesis =>
      obtain ⟨firstFilled, firstPlaced, rest, rfl, restCovered⟩ := covered
      refine ⟨firstFilled, firstPlaced, rest ++ token.text, by simp, ?_⟩
      apply inductionHypothesis restCovered
      simpa using placed

/-- A partition stays one when its last two tokens are fused. -/
theorem fuse {first second : Token}
    (covered : PartitionAfter before text (tokens ++ [first, second])) :
    PartitionAfter before text (tokens ++ [first.fuse second]) := by
  induction tokens generalizing before text with
  | nil =>
      obtain ⟨firstFilled, firstPlaced, rest, rfl, _, secondPlaced, final, rfl, ended⟩ := covered
      have finalEmpty : final = [] := ended
      subst finalEmpty
      refine ⟨by simp [Token.fuse, firstFilled], ?_, [], by simp [Token.fuse], rfl⟩
      simp [Token.fuse, firstPlaced, secondPlaced]
  | cons token later inductionHypothesis =>
      obtain ⟨filled, placed, rest, rfl, restCovered⟩ := covered
      exact ⟨filled, placed, rest, rfl, inductionHypothesis restCovered⟩

/-- The texts of a partition, one after the other, are the text. -/
theorem source_eq (covered : PartitionAfter before text tokens) : source tokens = text := by
  induction tokens generalizing before text with
  | nil => exact (covered : text = []).symm
  | cons token later inductionHypothesis =>
      obtain ⟨_, _, rest, rfl, restCovered⟩ := covered
      have laterText := inductionHypothesis restCovered
      unfold source at laterText ⊢
      rw [List.flatMap_cons, laterText]

/-- A token of a partition starts after the texts of the tokens before it. -/
theorem start_eq {earlier later : List Token} {token : Token}
    (covered : PartitionAfter before text (earlier ++ token :: later)) :
    token.span.start = .after (before ++ source earlier) := by
  induction earlier generalizing before text with
  | nil =>
      obtain ⟨_, placed, _⟩ := covered
      rw [placed]
      simp [source]
  | cons first others inductionHypothesis =>
      obtain ⟨_, _, rest, rfl, restCovered⟩ := covered
      rw [inductionHypothesis restCovered]
      simp [source]

end Token.PartitionAfter

/-! ## Laying pieces out -/

/-- The texts of pieces, one after the other. -/
def Piece.source (pieces : List Piece) : Text :=
  pieces.flatMap (·.text)

namespace Piece

@[simp]
theorem source_nil : source [] = [] :=
  rfl

@[simp]
theorem source_cons (piece : Piece) (pieces : List Piece) :
    source (piece :: pieces) = piece.text ++ source pieces :=
  rfl

@[simp]
theorem source_append (first second : List Piece) :
    source (first ++ second) = source first ++ source second :=
  List.flatMap_append

theorem source_flatMap {α : Type} (items : List α) (piecesOf : α → List Piece) :
    source (items.flatMap piecesOf) = items.flatMap fun item => source (piecesOf item) :=
  List.flatMap_assoc

end Piece

/-- The texts of tokens are the texts of their pieces. -/
theorem Token.source_eq_source_map_piece (tokens : List Token) :
    source tokens = Piece.source (tokens.map piece) :=
  (List.flatMap_map piece Piece.text tokens).symm

/-- A builder covers a text when it has reached its end and its tokens partition it. -/
structure TokenBuilder.Covers (builder : TokenBuilder) (text : Text) : Prop where
  position_eq : builder.position = .after text
  partition : Token.Partition text builder.tokens

namespace TokenBuilder

theorem covers_empty (merges : Bool) : (empty merges).Covers [] :=
  ⟨rfl, rfl⟩

/-- Pushing a token extends a partition, also when the token is joined to the last. -/
theorem partition_push {text : Text} {newestFirst : List Token} {token : Token}
    (merges : Bool) (covered : Token.Partition text newestFirst.reverse)
    (filled : token.text ≠ [])
    (placed : token.span = ⟨.after text, .after (text ++ token.text)⟩) :
    Token.Partition (text ++ token.text) (push merges token newestFirst).reverse := by
  have extended : Token.Partition (text ++ token.text) (newestFirst.reverse ++ [token]) :=
    covered.concat filled placed
  cases newestFirst with
  | nil => exact extended
  | cons previous older =>
      have lastTwo : Token.Partition (text ++ token.text) (older.reverse ++ [previous, token]) := by
        simpa using extended
      simp only [push]
      split
      · rw [List.reverse_cons]
        exact lastTwo.fuse
      · rw [List.reverse_cons, List.reverse_cons, List.append_assoc]
        exact lastTwo

/-- One more piece is covered as well. -/
theorem Covers.emit {builder : TokenBuilder} {text : Text} (covers : builder.Covers text)
    (piece : Piece) : (builder.emit piece).Covers (text ++ piece.text) := by
  unfold TokenBuilder.emit
  split
  · rename_i vanished
    rw [List.isEmpty_iff.mp vanished, List.append_nil]
    exact covers
  · rename_i filled
    have reached : builder.position.advance piece.text = .after (text ++ piece.text) := by
      rw [covers.position_eq, Position.advance_after]
    let token : Token := ⟨piece.cls, piece.text, ⟨.after text, .after (text ++ piece.text)⟩⟩
    have tokenFilled : token.text ≠ [] := by simpa [token] using filled
    rw [reached, covers.position_eq]
    exact ⟨rfl, partition_push builder.merges covers.partition tokenFilled rfl⟩

theorem Covers.emitAll {builder : TokenBuilder} {text : Text} (covers : builder.Covers text)
    (pieces : List Piece) :
    (builder.emitAll pieces).Covers (text ++ Piece.source pieces) := by
  induction pieces generalizing builder text with
  | nil => simpa using covers
  | cons piece later inductionHypothesis =>
      rw [emitAll_cons, Piece.source_cons, ← List.append_assoc]
      exact inductionHypothesis (covers.emit piece)

end TokenBuilder

/-- The tokens of pieces partition the text that the pieces make up. -/
theorem Token.partition_layout (merges : Bool) (pieces : List Piece) :
    Token.Partition (Piece.source pieces) (Token.layout merges pieces) :=
  ((TokenBuilder.covers_empty merges).emitAll pieces).partition

/-- A builder that does not merge adds a token for each piece that is not empty. -/
theorem TokenBuilder.map_piece_emitAll {builder : TokenBuilder} (apart : builder.merges = false)
    {pieces : List Piece} (filled : ∀ piece ∈ pieces, piece.text ≠ []) :
    (builder.emitAll pieces).tokens.map Token.piece =
      builder.tokens.map Token.piece ++ pieces := by
  induction pieces generalizing builder with
  | nil => rw [emitAll_nil, List.append_nil]
  | cons piece later inductionHypothesis =>
      obtain ⟨here, others⟩ := List.forall_mem_cons.mp filled
      have added : (builder.emit piece).merges = false ∧
          (builder.emit piece).tokens.map Token.piece =
            builder.tokens.map Token.piece ++ [piece] := by
        unfold emit
        rw [if_neg (by simpa using here)]
        cases newest : builder.newestFirst <;> simp [tokens, push, apart, newest, Token.piece]
      rw [emitAll_cons, inductionHypothesis added.1 others, added.2, List.append_assoc,
        List.singleton_append]

/-- Pieces that are not empty are laid out one by one. -/
theorem Token.map_piece_layout {pieces : List Piece} (filled : ∀ piece ∈ pieces, piece.text ≠ []) :
    (Token.layout false pieces).map Token.piece = pieces :=
  TokenBuilder.map_piece_emitAll rfl filled

/-! ## The pieces of each scan -/

/-- The slices of the scan for programming languages are cut from the text in turn. -/
theorem Code.source_piecesFrom (dialect : Dialect) (order : List ScanRule)
    (record : QuoteRecord) (offset : Nat) (text : Text) :
    Piece.source (piecesFrom dialect order record offset text) = text := by
  fun_induction piecesFrom dialect order record offset text with
  | case1 => rfl
  | case2 record offset c rest slice inductionHypothesis =>
      rw [Piece.source_cons, inductionHypothesis, List.cons_append, List.take_append_drop]

theorem Json.source_flush (aside : Text) (later : List Piece) :
    Piece.source (flush aside later) = aside.reverse ++ Piece.source later := by
  unfold flush
  split
  · rename_i none_aside
    simp [List.isEmpty_iff.mp none_aside]
  · rfl

/-- The scan for JSON gives up what it put aside, and then the text. -/
theorem Json.source_piecesFrom (closable afterWord : Bool) (aside text : Text) :
    Piece.source (piecesFrom closable afterWord aside text) = aside.reverse ++ text := by
  fun_induction piecesFrom closable afterWord aside text with
  | case1 => rw [source_flush, Piece.source_nil]
  | case2 closable afterWord aside c rest cls length found lexeme inductionHypothesis =>
      rw [source_flush, Piece.source_cons, inductionHypothesis, List.reverse_nil, List.nil_append,
        List.cons_append, List.take_append_drop]
  | case3 closable afterWord aside c rest found inductionHypothesis =>
      rw [inductionHypothesis, List.reverse_cons, List.append_assoc, List.singleton_append]

namespace Text

/-- Blanks, what stands between, and blanks again are the whole text. -/
theorem padding_append (text : Text) :
    text.padding.1 ++ (text.padding.2.1 ++ text.padding.2.2) = text := by
  unfold padding
  split
  · simp
  · rename_i core_left
    -- the blanks at the end are those of the text without the blanks at its start
    have ending : text.reverse.takeWhile isBlank = text.trimLeft.reverse.takeWhile isBlank := by
      have parts : text.reverse =
          text.trimLeft.reverse ++ (text.takeWhile isBlank).reverse := by
        rw [← List.reverse_append, trimLeft, List.takeWhile_append_dropWhile]
      rw [parts, List.takeWhile_append, if_neg]
      intro whole
      have blank := List.takeWhile_eq_self_iff.mp ((List.takeWhile_prefix _).eq_of_length whole)
      apply core_left
      rw [trim, trimRight, List.dropWhile_eq_nil_iff.mpr blank]
      rfl
    have core_ended : text.trim ++ (text.reverse.takeWhile isBlank).reverse = text.trimLeft := by
      rw [ending, trim, trimRight, ← List.reverse_append, List.takeWhile_append_dropWhile,
        List.reverse_reverse]
    rw [core_ended, trimLeft, List.takeWhile_append_dropWhile]

/-- What stands before and after a mark that has not occurred before. -/
theorem splitAt?_append {mark : Char} {front : Text} (absent : mark ∉ front) (rest : Text) :
    splitAt? mark (front ++ mark :: rest) = some (front, rest) := by
  induction front with
  | nil => simp [splitAt?]
  | cons c others inductionHypothesis =>
      rw [List.mem_cons, not_or] at absent
      simp [splitAt?, Ne.symm absent.1, inductionHypothesis absent.2]

/-- What stands before and after a mark, with the mark between, is the whole text. -/
theorem append_of_splitAt? {mark : Char} {text first second : Text}
    (split : text.splitAt? mark = some (first, second)) : first ++ mark :: second = text := by
  induction text generalizing first second with
  | nil => simp [splitAt?] at split
  | cons c rest inductionHypothesis =>
      unfold splitAt? at split
      split at split
      · rename_i found
        simp only [Option.some.injEq, Prod.mk.injEq] at split
        obtain ⟨rfl, rfl⟩ := split
        rw [found, List.nil_append]
      · obtain ⟨⟨start, final⟩, later, parts⟩ := Option.map_eq_some_iff.mp split
        simp only [Prod.mk.injEq] at parts
        obtain ⟨rfl, rfl⟩ := parts
        rw [List.cons_append, inductionHypothesis later]

end Text

theorem source_padded (cls : TokenClass) (part : Text) :
    Piece.source (padded cls part) = part := by
  simpa [padded] using part.padding_append

/-- A key, a mark and a value are the whole line. -/
theorem source_keyValue {mark : Char} {line key value : Text} (keyClass markClass
    valueClass : TokenClass) (split : line.splitAt? mark = some (key, value)) :
    Piece.source (padded keyClass key ++ ⟨markClass, [mark]⟩ :: padded valueClass value) =
      line := by
  rw [Piece.source_append, Piece.source_cons, source_padded, source_padded,
    List.singleton_append, Text.append_of_splitAt? split]

theorem Yaml.source_linePieces (line : Text) : Piece.source (linePieces line) = line := by
  unfold linePieces
  split
  · simp
  · split
    · rename_i key value split
      exact source_keyValue _ _ _ split
    · exact source_padded _ line

theorem Toml.source_linePieces (line : Text) : Piece.source (linePieces line) = line := by
  unfold linePieces
  split
  · simp
  · split
    · exact source_padded _ line
    · split
      · rename_i key value split
        exact source_keyValue _ _ _ split
      · exact source_padded _ line

/-! ## The tokens of each language -/

/-- Joined parts are the first of them, and then each other one after the mark. -/
theorem intercalate_cons_eq_append_flatMap (mark : Char) (first : Text) (later : List Text) :
    [mark].intercalate (first :: later) = first ++ later.flatMap (mark :: ·) := by
  induction later generalizing first with
  | nil => simp
  | cons second others inductionHypothesis =>
      rw [List.intercalate_cons_cons, inductionHypothesis, List.flatMap_cons]
      simp

/-- Lines that are covered one by one are covered together with their line feeds. -/
theorem partition_lineTokens {linePieces : Text → List Piece}
    (kept : ∀ line, Piece.source (linePieces line) = line) (text : Text) :
    Token.Partition text (lineTokens linePieces text) := by
  unfold lineTokens
  split
  · rename_i none_left
    exact absurd none_left text.lines_ne_nil
  · rename_i first later cut
    have broken : ∀ line : Text,
        Piece.source (⟨.whitespace, ['\n']⟩ :: linePieces line) = '\n' :: line := by
      intro line
      rw [Piece.source_cons, kept, List.singleton_append]
    have whole : Piece.source (linePieces first ++ later.flatMap fun line =>
        ⟨.whitespace, ['\n']⟩ :: linePieces line) = text := by
      calc
        _ = first ++ later.flatMap ('\n' :: ·) := by
          simp only [Piece.source_append, Piece.source_flatMap, kept, broken]
        _ = ['\n'].intercalate text.lines := by
          rw [cut, intercalate_cons_eq_append_flatMap]
        _ = text := text.intercalate_lines
    have covered := Token.partition_layout true
      (linePieces first ++ later.flatMap fun line => ⟨.whitespace, ['\n']⟩ :: linePieces line)
    rwa [whole] at covered

theorem partition_plainTokens (text : Text) : Token.Partition text (plainTokens text) := by
  have covered := Token.partition_layout false [⟨plainClass text, text⟩]
  rwa [Piece.source_cons, Piece.source_nil, List.append_nil] at covered

theorem Code.partition_tokens (dialect : Dialect) (order : List ScanRule) (text : Text) :
    Token.Partition text (tokens dialect order text) := by
  have covered := Token.partition_layout false (pieces dialect order text)
  rwa [pieces, source_piecesFrom] at covered

theorem Json.partition_tokens (text : Text) : Token.Partition text (tokens text) := by
  have covered := Token.partition_layout false (pieces text)
  rwa [pieces, source_piecesFrom] at covered

/-- The tokens of a text partition it, in every language and in none. -/
theorem partition_highlight (text : Text) (language : Option Language) :
    Token.Partition text (highlight text language) := by
  unfold highlight
  split
  · exact partition_plainTokens text
  · exact Json.partition_tokens text
  · exact partition_lineTokens Yaml.source_linePieces text
  · exact partition_lineTokens Toml.source_linePieces text
  · split
    · exact Code.partition_tokens _ _ text
    · exact partition_plainTokens text

end Highlighter
