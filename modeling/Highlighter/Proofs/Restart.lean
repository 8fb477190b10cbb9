import Highlighter.Proofs.CheckedScan
import Highlighter.Proofs.FreshScan
import Mathlib.Data.List.Forall2

/-!
# The scan started again at a token boundary

After some turns the scan for programming languages stands at the start of its next token,
with the record of quotes that it has built up.  What it makes from there on depends on the
text that is left alone: a scan of that text by itself makes the same tokens, nearer to the
start by what was left out, and forgetting the record at the boundary changes nothing.

The invariant of a turn is `Cursor.Reached`: the record is sound for the text that is left,
and the pieces of that text are those that are still to come.
-/

namespace Highlighter

/-! ## Partitions from one of their tokens on -/

/-- Two tokens have one class and text, and the first lies so many characters further from
the start. -/
structure Token.Displaced (distance : Nat) (token nearer : Token) : Prop where
  piece_eq : token.piece = nearer.piece
  start_eq : token.span.start.offset = nearer.span.start.offset + distance
  stop_eq : token.span.stop.offset = nearer.span.stop.offset + distance

namespace Token.PartitionAfter

/-- Partitions with the same pieces are displaced by what stands before the one and not
before the other. -/
theorem displaced {distance : Nat} {before nearer text other : Text}
    {tokens others : List Token} (covered : PartitionAfter before text tokens)
    (otherCovered : PartitionAfter nearer other others)
    (pieces : tokens.map piece = others.map piece)
    (apart : before.length = nearer.length + distance) :
    List.Forall₂ (Displaced distance) tokens others := by
  induction tokens generalizing before nearer text other others with
  | nil =>
      rw [List.map_nil, eq_comm, List.map_eq_nil_iff] at pieces
      rw [pieces]
      exact List.Forall₂.nil
  | cons token later inductionHypothesis =>
      cases others with
      | nil => contradiction
      | cons first rest =>
          obtain ⟨_, placed, _, _, laterCovered⟩ := covered
          obtain ⟨_, firstPlaced, _, _, restCovered⟩ := otherCovered
          simp only [List.map_cons, List.cons.injEq] at pieces
          obtain ⟨same, laterSame⟩ := pieces
          have texts : token.text = first.text := congrArg Piece.text same
          have stillApart : (before ++ token.text).length =
              (nearer ++ first.text).length + distance := by
            rw [texts, List.length_append, List.length_append]
            omega
          refine List.Forall₂.cons ⟨same, ?_, ?_⟩
            (inductionHypothesis laterCovered restCovered laterSame stillApart)
          · rw [placed, firstPlaced]
            exact apart
          · rw [placed, firstPlaced]
            exact stillApart

/-- The tokens from one on partition what is left after the texts of those before it. -/
theorem drop {before text : Text} {tokens : List Token}
    (covered : PartitionAfter before text tokens) (index : Nat) :
    PartitionAfter (before ++ source (tokens.take index))
      (text.drop (source (tokens.take index)).length) (tokens.drop index) := by
  induction tokens generalizing before text index with
  | nil =>
      rw [List.take_nil, List.drop_nil, source, List.flatMap_nil, List.append_nil]
      exact covered
  | cons token later inductionHypothesis =>
      cases index with
      | zero =>
          rw [List.take_zero, List.drop_zero, source, List.flatMap_nil, List.append_nil]
          exact covered
      | succ further =>
          obtain ⟨_, _, rest, rfl, laterCovered⟩ := covered
          have left := inductionHypothesis laterCovered further
          rw [List.append_assoc] at left
          rw [List.take_succ_cons, List.drop_succ_cons, source, List.flatMap_cons,
            List.length_append, List.drop_length_add_append]
          exact left

end Token.PartitionAfter

namespace Code

section

variable (dialect : Dialect) (order : List ScanRule)

/-! ## Turns up to a boundary -/

/-- Where the scan of a source stands after a number of turns, if none of them fails. -/
def cursorAfter? (source : Text) : Nat → Option Cursor
  | 0 => some ⟨0, .empty, .empty false⟩
  | count + 1 => (cursorAfter? source count).bind (turn? dialect source order)

/-- A cursor has the given pieces behind it, and in front of it a text with the remaining
ones, for which its record is sound. -/
structure Cursor.Reached (source : Text) (earlier : List Piece) (cursor : Cursor) : Prop where
  pieces_eq : freshPieces dialect order source =
    earlier ++ freshPieces dialect order (source.drop cursor.offset)
  offset_eq : cursor.offset = (Piece.source earlier).length
  builder_eq : cursor.builder = (TokenBuilder.empty false).emitAll earlier
  sound : cursor.record.SoundFor (source.drop cursor.offset)

theorem Cursor.reached_start (source : Text) :
    Cursor.Reached dialect order source [] ⟨0, .empty, .empty false⟩ where
  pieces_eq := rfl
  offset_eq := rfl
  builder_eq := rfl
  sound := QuoteRecord.soundFor_empty source

variable {dialect order} {source : Text}

/-- A turn inside the source succeeds, and moves the next piece behind the cursor. -/
theorem Cursor.Reached.turn {earlier : List Piece} {cursor : Cursor} {c : Char} {rest : Text}
    (reached : cursor.Reached dialect order source earlier)
    (here : source.drop cursor.offset = c :: rest) :
    ∃ next piece, turn? dialect source order cursor = some next ∧
      next.Reached dialect order source (earlier ++ [piece]) := by
  have sound := reached.sound
  rw [here] at sound
  obtain ⟨decided, stillSound⟩ :=
    firstSlice_of_soundFor sound dialect cursor.offset order
  have slice_le := further_firstSlice_le dialect cursor.record cursor.offset c rest order
  have turned := turn?_eq dialect order cursor here
  generalize firstSlice dialect cursor.record cursor.offset c rest order = slice at *
  refine ⟨_, ⟨slice.cls, c :: rest.take slice.further⟩, turned, ?_⟩
  have left : source.drop (cursor.offset + slice.further + 1) = rest.drop slice.further := by
    rw [Nat.add_assoc, ← List.drop_drop, here, List.drop_succ_cons]
  constructor
  · rw [left, reached.pieces_eq, here, freshPieces, decided, List.append_assoc,
      List.singleton_append]
  · rw [Piece.source_append, List.length_append, ← reached.offset_eq, Piece.source_cons,
      Piece.source_nil, List.append_nil, List.length_cons, List.length_take,
      Nat.min_eq_left slice_le]
    rfl
  · rw [reached.builder_eq, TokenBuilder.emitAll, TokenBuilder.emitAll, List.foldl_append]
    rfl
  · rw [left]
    exact stillSound.drop (slice.further + 1)

/-- Turn after turn the pieces of the source come to stand behind the cursor. -/
theorem exists_cursorAfter? {count : Nat}
    (inside : count ≤ (freshPieces dialect order source).length) :
    ∃ cursor, cursorAfter? dialect order source count = some cursor ∧
      cursor.Reached dialect order source ((freshPieces dialect order source).take count) := by
  induction count with
  | zero => exact ⟨_, rfl, Cursor.reached_start dialect order source⟩
  | succ count inductionHypothesis =>
      obtain ⟨cursor, stands, reached⟩ := inductionHypothesis (Nat.le_of_succ_le inside)
      have pieces := reached.pieces_eq
      cases here : source.drop cursor.offset with
      | nil =>
          have lengths := congrArg List.length pieces
          rw [here, freshPieces, List.append_nil, List.length_take] at lengths
          omega
      | cons c rest =>
          obtain ⟨next, piece, turned, nextReached⟩ := reached.turn here
          refine ⟨next, ?_, ?_⟩
          · rw [cursorAfter?, stands, Option.bind_some, turned]
          · have extended : (freshPieces dialect order source).take (count + 1) =
                (freshPieces dialect order source).take count ++ [piece] := by
              have split := nextReached.pieces_eq
              have length : ((freshPieces dialect order source).take count ++ [piece]).length =
                  count + 1 := by
                rw [List.length_append, List.length_take, List.length_singleton]
                omega
              conv_lhs => rw [split]
              exact List.take_left' length
            rw [extended]
            exact nextReached

/-- From a boundary the scan goes on to the tokens of the source with any record that is
sound for what is left. -/
theorem Cursor.Reached.run?_eq {earlier : List Piece} {cursor : Cursor}
    (reached : cursor.Reached dialect order source earlier) {record : QuoteRecord}
    (sound : record.SoundFor (source.drop cursor.offset)) :
    run? dialect source order ⟨cursor.offset, record, cursor.builder⟩ =
      some (tokens dialect order source) := by
  rw [Code.run?_eq, tokens_eq_freshTokens, freshTokens, Token.layout, reached.pieces_eq,
    reached.builder_eq, piecesFrom_of_soundFor dialect order sound, TokenBuilder.emitAll,
    TokenBuilder.emitAll, TokenBuilder.emitAll, List.foldl_append]

/-! ## The tokens behind a boundary -/

theorem ne_nil_of_mem_freshPieces {text : Text} :
    ∀ piece ∈ freshPieces dialect order text, piece.text ≠ [] := by
  fun_induction freshPieces dialect order text with
  | case1 => exact List.forall_mem_nil _
  | case2 c rest cls further _ inductionHypothesis =>
      exact List.forall_mem_cons.mpr ⟨List.cons_ne_nil _ _, inductionHypothesis⟩

variable (dialect order)

/-- The tokens of a source have the pieces of the scan that searches again. -/
theorem map_piece_tokens (text : Text) :
    (tokens dialect order text).map Token.piece = freshPieces dialect order text := by
  rw [tokens_eq_freshTokens]
  exact Token.map_piece_layout ne_nil_of_mem_freshPieces

/-- A token starts behind the texts of the tokens before it. -/
theorem start_offset_eq {text : Text} {index : Nat} {token : Token}
    (boundary : (tokens dialect order text)[index]? = some token) :
    token.span.start.offset =
      (Token.source ((tokens dialect order text).take index)).length := by
  obtain ⟨inside, here⟩ := List.getElem?_eq_some_iff.mp boundary
  have split : tokens dialect order text = (tokens dialect order text).take index ++
      token :: (tokens dialect order text).drop (index + 1) := by
    rw [← here, ← List.drop_eq_getElem_cons, List.take_append_drop]
  have covered := partition_tokens dialect order text
  rw [split] at covered
  exact congrArg Position.offset covered.start_eq

end

/-- The scan can be started again where any of its tokens starts.  A scan of the text that
is left there makes the tokens from that one on, each nearer to the start by what was left
out.  And the scan that stands there goes on in the same way when it forgets its record of
unclosed quotes. -/
theorem restart_at_token_boundary (dialect : Dialect) (order : List ScanRule) (text : Text)
    (index : Nat) (token : Token)
    (boundary : (tokens dialect order text)[index]? = some token) :
    let start := token.span.start.offset
    List.Forall₂ (Token.Displaced start) ((tokens dialect order text).drop index)
        (tokens dialect order (text.drop start)) ∧
      ∃ cursor, cursorAfter? dialect order text index = some cursor ∧ cursor.offset = start ∧
        piecesFrom dialect order cursor.record start (text.drop start) =
          pieces dialect order (text.drop start) ∧
        run? dialect text order cursor = some (tokens dialect order text) ∧
        run? dialect text order ⟨cursor.offset, .empty, cursor.builder⟩ =
          some (tokens dialect order text) := by
  intro start
  have counted : index ≤ (freshPieces dialect order text).length := by
    rw [← map_piece_tokens, List.length_map]
    exact Nat.le_of_lt (List.getElem?_eq_some_iff.mp boundary).1
  obtain ⟨cursor, stands, reached⟩ := exists_cursorAfter? counted
  have startAt : start = (Token.source ((tokens dialect order text).take index)).length :=
    start_offset_eq dialect order boundary
  have cursorAt : cursor.offset = start := by
    rw [reached.offset_eq, startAt, Token.source_eq_source_map_piece, List.map_take,
      map_piece_tokens]
  have left : freshPieces dialect order (text.drop start) =
      (freshPieces dialect order text).drop index := by
    have split : (freshPieces dialect order text).take index ++
          freshPieces dialect order (text.drop start) =
        (freshPieces dialect order text).take index ++
          (freshPieces dialect order text).drop index := by
      rw [List.take_append_drop, ← cursorAt, ← reached.pieces_eq]
    exact List.append_cancel_left split
  refine ⟨?_, cursor, stands, cursorAt, ?_, reached.run?_eq reached.sound,
    reached.run?_eq (QuoteRecord.soundFor_empty _)⟩
  · have covered := (partition_tokens dialect order text).drop index
    rw [← startAt] at covered
    apply covered.displaced (partition_tokens dialect order (text.drop start))
    · rw [List.map_drop, map_piece_tokens, map_piece_tokens, left]
    · rw [List.nil_append, List.length_nil, startAt, Nat.zero_add]
  · rw [← cursorAt, piecesFrom_of_soundFor dialect order reached.sound, pieces_eq_freshPieces]

/-- In `"x`, a line feed and `\"` no double quote closes.  The first leaves its place on
record, by which the second is answered; the scan that starts at the second searches. -/
theorem restart_at_token_boundary_unclosed :
    let text := ['\x22', 'x', '\n', '\\', '\x22']
    let token : Token := ⟨.string, ['\x22'], ⟨⟨2, 2, 4⟩, ⟨2, 3, 5⟩⟩⟩
    (tokens .python ScanRule.standard text)[3]? = some token ∧
      (cursorAfter? .python ScanRule.standard text 3).map (·.record.failure? .double) =
        some (some 0) ∧
      List.Forall₂ (Token.Displaced 4) [token] (tokens .python ScanRule.standard ['\x22']) := by
  intro text token
  have boundary : (tokens .python ScanRule.standard text)[3]? = some token := by
    decide +kernel
  have displaced := (restart_at_token_boundary .python ScanRule.standard text 3 token boundary).1
  refine ⟨boundary, ?_, ?_⟩
  · decide +kernel
  · have remaining : (tokens .python ScanRule.standard text).drop 3 = [token] := by
      decide +kernel
    rw [remaining] at displaced
    exact displaced

end Code

end Highlighter
