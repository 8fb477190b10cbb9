import Highlighter.Proofs.Places
import Mathlib.Data.List.SplitBy

/-!
# Runs of white space

A builder that joins white space lays out what a builder without joining lays out, with each run
of neighbouring white-space tokens made one token.  The two go through the pieces in step: they
reach the same position with each piece, and a token that is joined to the one before it is the
next one of the last run.  An empty piece between two others leaves no trace in either, so it does
not end a run.
-/

namespace Highlighter

/-- An element that is related to the last one of a list belongs to the last run of the list. -/
theorem splitBy_concat {α : Type} {related : α → α → Bool} {elements : List α}
    {runs : List (List α)} {run : List α} {next : α}
    (split : elements.splitBy related = runs ++ [run])
    (joins : ∀ last ∈ run.getLast?, related last next = true) :
    (elements ++ [next]).splitBy related = runs ++ [run ++ [next]] := by
  rw [List.splitBy_eq_iff] at split ⊢
  obtain ⟨whole, filled, chains, apart⟩ := split
  rw [List.mem_append, not_or] at filled
  rw [List.forall_mem_append, List.forall_mem_singleton] at chains
  rw [List.isChain_append] at apart
  refine ⟨?_, ?_, ?_, ?_⟩
  · rw [whole, List.flatten_append, List.flatten_append, List.flatten_singleton,
      List.flatten_singleton, List.append_assoc]
  · rw [List.mem_append, not_or]
    exact ⟨filled.1, by simp⟩
  · rw [List.forall_mem_append, List.forall_mem_singleton]
    refine ⟨chains.1, List.isChain_append.mpr ⟨chains.2, .singleton _, ?_⟩⟩
    rintro last isLast _ ⟨⟩
    exact joins last isLast
  · refine List.isChain_append.mpr ⟨apart.1, .singleton _, ?_⟩
    rintro earlier isEarlier _ ⟨⟩
    obtain ⟨earlierFilled, runFilled, parted⟩ := apart.2.2 earlier isEarlier run rfl
    -- The longer run starts with the same element, so it is parted from the run before it.
    refine ⟨earlierFilled, List.append_ne_nil_of_left_ne_nil runFilled _, ?_⟩
    rw [List.head_append_of_ne_nil runFilled]
    exact parted

namespace Token

/-- Whether two tokens are both white space. -/
def bothWhite (first second : Token) : Bool :=
  first.cls == .whitespace && second.cls == .whitespace

/-- A run of tokens as one: their texts one after the other, from the start of the first to the end
of the last. -/
def ofRun (first : Token) (later : List Token) : Token :=
  ⟨first.cls, source (first :: later), ⟨first.span.start, (later.getLastD first).span.stop⟩⟩

/-- The one token of a run, if it is not empty. -/
def ofRun? : List Token → Option Token
  | [] => none
  | first :: later => some (ofRun first later)

/-- Tokens with each longest run of neighbouring white-space tokens made one. -/
def coalesced (tokens : List Token) : List Token :=
  (tokens.splitBy bothWhite).filterMap ofRun?

theorem ofRun_nil (token : Token) : ofRun token [] = token := by
  rw [ofRun, source, List.flatMap_singleton]
  rfl

theorem ofRun_concat (first : Token) (later : List Token) (token : Token) :
    ofRun first (later ++ [token]) = (ofRun first later).fuse token := by
  rw [ofRun, ← List.cons_append, source_concat, List.getLastD_concat]
  rfl

/-- A run is white space at its end as at its start: only white space has neighbours in a run. -/
theorem whitespace_getLastD_iff {first : Token} {later : List Token}
    (run : (first :: later).IsChain fun one next => bothWhite one next = true) :
    (later.getLastD first).cls = .whitespace ↔ first.cls = .whitespace := by
  induction later generalizing first with
  | nil => rfl
  | cons second more inductionHypothesis =>
      rw [List.isChain_cons_cons, bothWhite, Bool.and_eq_true, beq_iff_eq, beq_iff_eq] at run
      rw [List.getLastD_cons, inductionHypothesis run.2]
      exact iff_of_true run.1.2 run.1.1

theorem coalesced_of_splitBy {tokens later : List Token} {runs : List (List Token)} {first : Token}
    (split : tokens.splitBy bothWhite = runs ++ [first :: later]) :
    coalesced tokens = runs.filterMap ofRun? ++ [ofRun first later] := by
  rw [coalesced, split, List.filterMap_append]
  rfl

/-- A token that starts a run is put behind the others with their runs made one. -/
theorem coalesced_concat_of_apart {tokens : List Token} {token : Token}
    (apart : ∀ last ∈ tokens.getLast?, bothWhite last token = false) :
    coalesced (tokens ++ [token]) = coalesced tokens ++ [token] := by
  have alone : ([token].splitBy bothWhite).filterMap ofRun? = [token] :=
    congrArg ([·]) (ofRun_nil token)
  rw [coalesced, List.splitBy_append_cons [] apart, List.filterMap_append, alone, ← coalesced]

/-- The last run of tokens is white space if the last token is, and then white space behind them
is joined to it. -/
theorem exists_coalesced_eq_append {tokens : List Token} {last : Token}
    (ends : tokens.getLast? = some last) :
    ∃ older joined, coalesced tokens = older ++ [joined] ∧
      (last.cls = .whitespace ↔ joined.cls = .whitespace) ∧
      ∀ token, bothWhite last token = true →
        coalesced (tokens ++ [token]) = older ++ [joined.fuse token] := by
  rcases List.eq_nil_or_concat' (tokens.splitBy bothWhite) with vanished | ⟨runs, run, split⟩
  · rw [List.splitBy_eq_nil.mp vanished] at ends
    contradiction
  · have member : run ∈ tokens.splitBy bothWhite := by simp [split]
    obtain ⟨first, later, rfl⟩ := List.exists_cons_of_ne_nil (List.ne_nil_of_mem_splitBy member)
    have run_ends : (first :: later).getLast? = some (later.getLastD first) := by
      rw [List.getLast?_cons, List.getLastD_eq_getLast?]
    rw [← List.flatten_splitBy bothWhite tokens, split, List.flatten_append, List.flatten_singleton,
      List.getLast?_append_cons, run_ends] at ends
    obtain rfl := Option.some.inj ends
    refine ⟨runs.filterMap ofRun?, ofRun first later, coalesced_of_splitBy split,
      whitespace_getLastD_iff (List.isChain_of_mem_splitBy member), fun token joins => ?_⟩
    rw [← ofRun_concat]
    apply coalesced_of_splitBy
    apply splitBy_concat split
    rw [run_ends]
    rintro _ ⟨⟩
    exact joins

/-- With the runs made one, one more token is laid out as by a builder that joins white space. -/
theorem reverse_coalesced_concat (tokens : List Token) (token : Token) :
    (coalesced (tokens ++ [token])).reverse =
      TokenBuilder.push true token (coalesced tokens).reverse := by
  cases ends : tokens.getLast? with
  | none =>
      rw [List.getLast?_eq_none_iff.mp ends, coalesced_concat_of_apart (by simp)]
      rfl
  | some last =>
      obtain ⟨older, joined, coalesced_eq, alike, joins⟩ := exists_coalesced_eq_append ends
      have asked : (true && token.cls == .whitespace && joined.cls == .whitespace) =
          bothWhite last token := by
        rw [Bool.eq_iff_iff]
        simp [bothWhite, alike, and_comm]
      rw [coalesced_eq, List.reverse_concat, TokenBuilder.push, asked]
      split
      · rename_i both
        rw [joins token both, List.reverse_concat]
      · rename_i apart
        rw [coalesced_concat_of_apart (by simpa [ends] using apart), coalesced_eq,
          List.reverse_concat, List.reverse_concat]

end Token

namespace TokenBuilder

theorem push_false (token : Token) (newestFirst : List Token) :
    push false token newestFirst = token :: newestFirst := by
  cases newestFirst <;> rfl

/-- A builder that joins white space has reached what a builder without joining has, with the runs
of white space made one. -/
structure InStep (plain joining : TokenBuilder) : Prop where
  plain_merges : plain.merges = false
  joining_merges : joining.merges = true
  position_eq : joining.position = plain.position
  tokens_eq : joining.tokens = Token.coalesced plain.tokens

variable {plain joining : TokenBuilder}

theorem InStep.emit (inStep : InStep plain joining) (piece : Piece) :
    InStep (plain.emit piece) (joining.emit piece) := by
  unfold TokenBuilder.emit
  split
  · exact inStep
  · have joined : joining.newestFirst = (Token.coalesced plain.tokens).reverse := by
      rw [← inStep.tokens_eq, tokens, List.reverse_reverse]
    rw [inStep.position_eq, inStep.plain_merges, inStep.joining_merges]
    refine ⟨rfl, rfl, rfl, ?_⟩
    simp only [tokens, push_false, List.reverse_cons] at joined ⊢
    rw [joined, ← Token.reverse_coalesced_concat, List.reverse_reverse]

theorem InStep.emitAll (inStep : InStep plain joining) (pieces : List Piece) :
    InStep (plain.emitAll pieces) (joining.emitAll pieces) := by
  induction pieces generalizing plain joining with
  | nil => exact inStep
  | cons piece later inductionHypothesis => exact inductionHypothesis (inStep.emit piece)

/-- Joining white space while laying pieces out is making its runs one afterwards, and the next
token starts at the same position. -/
theorem joining_eq_coalescing (pieces : List Piece) :
    ((empty true).emitAll pieces).tokens =
        Token.coalesced ((empty false).emitAll pieces).tokens ∧
      ((empty true).emitAll pieces).position = ((empty false).emitAll pieces).position := by
  have start : InStep (empty false) (empty true) := ⟨rfl, rfl, rfl, rfl⟩
  have reached := start.emitAll pieces
  exact ⟨reached.tokens_eq, reached.position_eq⟩

example :
    let pieces : List Piece :=
      [⟨.whitespace, [' ']⟩, ⟨.identifier, []⟩, ⟨.whitespace, ['\n', ' ']⟩, ⟨.identifier, ['x']⟩]
    ((empty true).emitAll pieces).tokens =
      [⟨.whitespace, [' ', '\n', ' '], ⟨⟨1, 1, 0⟩, ⟨2, 2, 3⟩⟩⟩,
        ⟨.identifier, ['x'], ⟨⟨2, 2, 3⟩, ⟨2, 3, 4⟩⟩⟩] := by
  decide

end TokenBuilder

end Highlighter
