import Highlighter.Proofs.Places

/-!
# Visible tokens

The tokens that are not white space do not depend on how white space is joined: each piece that
is neither empty nor white space makes one of them, and it stands where the text before it ends.
Below another text they are the same tokens, further down by the lines of that text and further
on by its characters.
-/

namespace Highlighter

/-! ## From pieces to visible tokens -/

/-- The tokens that are not white space. -/
def Token.visible (tokens : List Token) : List Token :=
  tokens.filter (·.cls != .whitespace)

namespace Piece

/-- Whether a piece leaves a visible token. -/
def isVisible (piece : Piece) : Bool :=
  !piece.text.isEmpty && piece.cls != .whitespace

/-- A piece as the token that it makes behind a text. -/
def placed (before : Text) (piece : Piece) : Token :=
  ⟨piece.cls, piece.text, ⟨.after before, .after (before ++ piece.text)⟩⟩

/-- The visible tokens of pieces that follow a text. -/
def visibleFrom (before : Text) : List Piece → List Token
  | [] => []
  | piece :: later =>
      (if piece.isVisible then [piece.placed before] else []) ++
        visibleFrom (before ++ piece.text) later

theorem visibleFrom_append (before : Text) (first second : List Piece) :
    visibleFrom before (first ++ second) =
      visibleFrom before first ++ visibleFrom (before ++ source first) second := by
  induction first generalizing before with
  | nil => rw [source_nil, List.append_nil, visibleFrom, List.nil_append, List.nil_append]
  | cons piece later inductionHypothesis =>
      rw [List.cons_append, visibleFrom, visibleFrom, inductionHypothesis, source_cons,
        List.append_assoc, List.append_assoc]

theorem map_piece_visibleFrom (before : Text) (pieces : List Piece) :
    (visibleFrom before pieces).map Token.piece = pieces.filter isVisible := by
  induction pieces generalizing before with
  | nil => rfl
  | cons piece later inductionHypothesis =>
      rw [visibleFrom, List.map_append, inductionHypothesis, List.filter_cons]
      split <;> rfl

end Piece

namespace TokenBuilder

/-- Joining white space changes no visible token. -/
theorem visible_push (merges : Bool) (token : Token) (newestFirst : List Token) :
    Token.visible (push merges token newestFirst).reverse =
      Token.visible (token :: newestFirst).reverse := by
  cases newestFirst with
  | nil => rfl
  | cons previous older =>
      simp only [push]
      split
      · rename_i joined
        simp only [Bool.and_eq_true, beq_iff_eq] at joined
        simp [Token.visible, Token.fuse, joined]
      · rfl

/-- A builder at the end of a text adds the visible token that a piece makes there. -/
theorem emit_after {builder : TokenBuilder} {before : Text}
    (reached : builder.position = .after before) (piece : Piece) :
    (builder.emit piece).position = .after (before ++ piece.text) ∧
      Token.visible (builder.emit piece).tokens =
        Token.visible builder.tokens ++ if piece.isVisible then [piece.placed before] else [] := by
  unfold emit
  split
  · rename_i vanished
    rw [if_neg (by simp [Piece.isVisible, vanished]), List.isEmpty_iff.mp vanished,
      List.append_nil, List.append_nil]
    exact ⟨reached, rfl⟩
  · rename_i filled
    have stop : builder.position.advance piece.text = .after (before ++ piece.text) := by
      rw [reached, Position.advance_after]
    have shown : piece.isVisible = (piece.cls != .whitespace) := by
      simp [Piece.isVisible, filled]
    refine ⟨stop, ?_⟩
    rw [tokens, visible_push, stop, reached, List.reverse_cons, Token.visible,
      List.filter_append, List.filter_cons, List.filter_nil, shown]
    rfl

/-- The visible tokens of a builder are those it had, and then those of the pieces laid out. -/
theorem visible_emitAll {builder : TokenBuilder} {before : Text}
    (reached : builder.position = .after before) (pieces : List Piece) :
    Token.visible (builder.emitAll pieces).tokens =
      Token.visible builder.tokens ++ Piece.visibleFrom before pieces := by
  induction pieces generalizing builder before with
  | nil => rw [emitAll_nil, Piece.visibleFrom, List.append_nil]
  | cons piece later inductionHypothesis =>
      obtain ⟨stop, added⟩ := emit_after reached piece
      rw [emitAll_cons, inductionHypothesis stop, added, Piece.visibleFrom, List.append_assoc]

end TokenBuilder

theorem Token.visible_layout (merges : Bool) (pieces : List Piece) :
    visible (layout merges pieces) = Piece.visibleFrom [] pieces :=
  TokenBuilder.visible_emitAll rfl pieces

/-! ## Below a text -/

/-- A position as it stands below a text and a line feed. -/
def Position.below (above : Text) (position : Position) : Position :=
  ⟨position.line + (above.count '\n' + 1), position.column, position.offset + (above.length + 1)⟩

/-- A token as it stands below a text and a line feed. -/
def Token.below (above : Text) (token : Token) : Token :=
  { token with span := ⟨token.span.start.below above, token.span.stop.below above⟩ }

/-- A line feed starts the columns anew. -/
theorem Text.lastLineLength_below (above before : Text) :
    lastLineLength (above ++ '\n' :: before) = lastLineLength before := by
  have stopped : ('\n' :: above.reverse).takeWhile (· != '\n') = [] := rfl
  have turned : (above ++ '\n' :: before).reverse = before.reverse ++ '\n' :: above.reverse := by
    simp
  rw [lastLineLength, lastLineLength, countWhile, countWhile, turned, List.takeWhile_append,
    stopped, List.append_nil]
  split
  · rename_i whole
    rw [(List.takeWhile_prefix _).eq_of_length whole]
  · rfl

theorem Position.after_below (above before : Text) :
    after (above ++ '\n' :: before) = (after before).below above := by
  have lines : (above ++ '\n' :: before).count '\n' + 1 =
      before.count '\n' + 1 + (above.count '\n' + 1) := by
    rw [List.count_append, List.count_cons_self]
    omega
  have length : (above ++ '\n' :: before).length = before.length + (above.length + 1) := by
    rw [List.length_append, List.length_cons]
    omega
  rw [after, lines, length, Text.lastLineLength_below]
  rfl

/-- Pieces below a text make the tokens that they make at the start of one, further down. -/
theorem Piece.visibleFrom_below (above before : Text) (pieces : List Piece) :
    visibleFrom (above ++ '\n' :: before) pieces =
      (visibleFrom before pieces).map (Token.below above) := by
  induction pieces generalizing before with
  | nil => rfl
  | cons piece later inductionHypothesis =>
      have placed_below : piece.placed (above ++ '\n' :: before) =
          (piece.placed before).below above := by
        rw [placed, List.append_assoc, List.cons_append, Position.after_below,
          Position.after_below]
        rfl
      rw [visibleFrom, visibleFrom, List.append_assoc, List.cons_append, inductionHypothesis,
        placed_below, List.map_append]
      split <;> rfl

end Highlighter
