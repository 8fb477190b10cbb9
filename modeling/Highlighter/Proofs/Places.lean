import Highlighter.Proofs.Coverage

/-!
# Tokens at their places in a text

The tokens of a text partition it, so each of them stands between what comes before it and
what comes after it, and starts where its span says.  And every place of a text lies in one of
its tokens.
-/

namespace Highlighter.Token

/-- A token is a slice of a text, between the texts before and after it, and its span is the
stretch that it fills there. -/
structure StandsIn (text before after : Text) (token : Token) : Prop where
  split : text = before ++ (token.text ++ after)
  span_eq : token.span = ⟨.after before, .after (before ++ token.text)⟩
  filled : token.text ≠ []

theorem source_cons (token : Token) (later : List Token) :
    source (token :: later) = token.text ++ source later :=
  List.flatMap_cons

theorem source_concat (earlier : List Token) (token : Token) :
    source (earlier ++ [token]) = source earlier ++ token.text := by
  rw [source, List.flatMap_append, List.flatMap_singleton, ← source]

namespace PartitionAfter

variable {before text : Text} {tokens earlier later : List Token} {token : Token}

/-- A token of a partition stands between the texts of the tokens before and after it. -/
theorem standsIn (covered : PartitionAfter before text (earlier ++ token :: later)) :
    token.StandsIn (before ++ text) (before ++ source earlier) (source later) := by
  induction earlier generalizing before text with
  | nil =>
      obtain ⟨filled, placed, rest, rfl, restCovered⟩ := covered
      rw [restCovered.source_eq, source, List.flatMap_nil, List.append_nil]
      exact ⟨rfl, placed, filled⟩
  | cons first others inductionHypothesis =>
      obtain ⟨_, _, rest, rfl, restCovered⟩ := covered
      have stands := inductionHypothesis restCovered
      rw [List.append_assoc, List.append_assoc] at stands
      exact stands

/-- A character of a text lies in a token of its partition, inside the span of the token. -/
theorem exists_mem_of_getElem? (covered : PartitionAfter before text tokens) {place : Nat}
    {c : Char} (here : text[place]? = some c) :
    ∃ token ∈ tokens, c ∈ token.text ∧ token.span.start.offset ≤ before.length + place ∧
      before.length + place < token.span.stop.offset := by
  induction tokens generalizing before text place with
  | nil =>
      rw [show text = [] from covered] at here
      contradiction
  | cons first others inductionHypothesis =>
      obtain ⟨_, placed, rest, rfl, restCovered⟩ := covered
      have start_eq : first.span.start.offset = before.length := by
        rw [placed]
        rfl
      have stop_eq : first.span.stop.offset = before.length + first.text.length := by
        rw [placed]
        exact List.length_append
      by_cases inside : place < first.text.length
      · rw [List.getElem?_append_left inside] at here
        refine ⟨first, List.mem_cons_self, List.mem_of_getElem? here, ?_, ?_⟩ <;> omega
      · have behind := Nat.le_of_not_lt inside
        rw [List.getElem?_append_right behind] at here
        obtain ⟨token, member, held, starts, stops⟩ := inductionHypothesis restCovered here
        rw [List.length_append] at starts stops
        refine ⟨token, List.mem_cons_of_mem first member, held, ?_, ?_⟩ <;> omega

/-- Tokens that cover texts are the same if their pieces are. -/
theorem eq_of_pieces {other : Text} {first second : List Token}
    (covered : PartitionAfter before text first) (otherCovered : PartitionAfter before other second)
    (same : first.map piece = second.map piece) : first = second := by
  induction first generalizing before text other second with
  | nil => exact (List.map_eq_nil_iff.mp same.symm).symm
  | cons token later inductionHypothesis =>
      cases second with
      | nil => simp at same
      | cons otherToken others =>
          obtain ⟨own, rest⟩ := List.cons.inj same
          obtain ⟨cls, written, span⟩ := token
          obtain ⟨otherClass, otherWritten, otherSpan⟩ := otherToken
          cases own
          obtain ⟨_, placed, _, _, laterCovered⟩ := covered
          obtain ⟨_, otherPlaced, _, _, othersCovered⟩ := otherCovered
          obtain rfl : span = otherSpan := placed.trans otherPlaced.symm
          rw [inductionHypothesis laterCovered othersCovered rest]

end PartitionAfter

end Highlighter.Token
