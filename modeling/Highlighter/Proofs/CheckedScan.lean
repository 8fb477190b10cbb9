import Highlighter.Proofs.Coverage
import Highlighter.Proofs.Extent

/-!
# The scan by offsets, with every look at the source checked

The scan of `Code.pieces` consumes its text and cannot look past the end of it.  Here
the same scan walks over a source by offsets, lays its slices out as it goes, and fails
as soon as a rule reads a character past the end or a slice reaches past it.  A turn of
this scan always succeeds and moves on inside the source, so a run ends, never fails,
and leaves the tokens of `Code.tokens`.
-/

namespace Highlighter

/-- Where a rule asked about one place of a source ends, and the record afterwards; the
place itself when it does not apply.  There is no answer past the end of the source for
a rule that looks at the next character. -/
def ScanRule.stop? (dialect : Dialect) (source : Text) (record : QuoteRecord) (offset : Nat)
    (rule : ScanRule) : Option (Nat × QuoteRecord) :=
  match source.drop offset with
  | [] => if rule.readsNext then none else some (offset, record)
  | c :: rest =>
      let (length, after) := rule.extent dialect record offset c rest
      some (offset + length, after)

/-- Asked with no failures on record, a rule ends where `ScanRule.endAt?` says. -/
theorem ScanRule.endAt?_eq_map_stop? (dialect : Dialect) (source : Text) (offset : Nat)
    (rule : ScanRule) :
    rule.endAt? dialect source offset = (rule.stop? dialect source .empty offset).map (·.1) := by
  unfold endAt? stop?
  cases source.drop offset with
  | nil => cases rule.readsNext <;> rfl
  | cons c rest => rfl

namespace Code

/-- The part of a source between two places, which must not lie past its end. -/
def slice? (source : Text) (start stop : Nat) : Option Text :=
  if stop ≤ source.length then some ((source.drop start).take (stop - start)) else none

/-- Where a scan stands: the place reached, the record of quotes, and the tokens so far. -/
structure Cursor where
  offset : Nat
  record : QuoteRecord
  builder : TokenBuilder

section

variable (dialect : Dialect) (source : Text)

/-- The first rule that moves on from a place decides the class of the slice and where it
ends; without one it is an identifier of one character. -/
def firstStop? (record : QuoteRecord) (offset : Nat) :
    List ScanRule → Option (TokenClass × Nat × QuoteRecord)
  | [] => some (.identifier, offset + 1, record)
  | rule :: later =>
      match rule.stop? dialect source record offset with
      | none => none
      | some (stop, after) =>
          if offset < stop then some (rule.tokenClass, stop, after)
          else firstStop? after offset later

variable (order : List ScanRule)

/-- One turn of the scan. -/
def turn? (cursor : Cursor) : Option Cursor :=
  match firstStop? dialect source cursor.record cursor.offset order with
  | none => none
  | some (cls, stop, after) =>
      (slice? source cursor.offset stop).map fun slice =>
        ⟨stop, after, cursor.builder.emit ⟨cls, slice⟩⟩

variable {dialect source order}

theorem lt_of_firstStop?_eq_some {record after : QuoteRecord} {offset stop : Nat}
    {cls : TokenClass}
    (decided : firstStop? dialect source record offset order = some (cls, stop, after)) :
    offset < stop := by
  induction order generalizing record with
  | nil =>
      cases decided
      exact Nat.lt_succ_self offset
  | cons rule later inductionHypothesis =>
      unfold firstStop? at decided
      split at decided
      · contradiction
      · split at decided
        · rename_i moved
          cases decided
          exact moved
        · exact inductionHypothesis decided

/-- Every turn moves on. -/
theorem offset_lt_of_turn?_eq_some {cursor next : Cursor}
    (turned : turn? dialect source order cursor = some next) : cursor.offset < next.offset := by
  unfold turn? at turned
  split at turned
  · contradiction
  · rename_i cls stop after decided
    obtain ⟨slice, _, rfl⟩ := Option.map_eq_some_iff.mp turned
    exact lt_of_firstStop?_eq_some decided

variable (dialect source order)

/-- The tokens that turn after turn lays out up to the end of the source, if no turn
fails. -/
def run? (cursor : Cursor) : Option (List Token) :=
  if cursor.offset < source.length then
    match _ : turn? dialect source order cursor with
    | none => none
    | some next => run? next
  else some cursor.builder.tokens
termination_by source.length - cursor.offset
decreasing_by
  rename_i turned
  have moved := offset_lt_of_turn?_eq_some turned
  omega

/-- The tokens of a source by the checked scan, if it does not fail. -/
def checkedTokens? : Option (List Token) :=
  run? dialect source order ⟨0, .empty, .empty false⟩

variable {source} {c : Char} {rest : Text} {offset : Nat}

/-- Inside the source, asking by offset decides the slice that the text at hand gives. -/
theorem firstStop?_eq (record : QuoteRecord) (here : source.drop offset = c :: rest) :
    firstStop? dialect source record offset order =
      let slice := firstSlice dialect record offset c rest order
      some (slice.cls, offset + slice.further + 1, slice.record) := by
  induction order generalizing record with
  | nil => rfl
  | cons rule later inductionHypothesis =>
      have answered : rule.stop? dialect source record offset =
          some (offset + (rule.extent dialect record offset c rest).1,
            (rule.extent dialect record offset c rest).2) := by
        unfold ScanRule.stop?
        rw [here]
      unfold firstStop? firstSlice
      rw [answered]
      rcases rule.extent dialect record offset c rest with ⟨length, after⟩
      cases length with
      | zero =>
          simp only [Nat.add_zero, Nat.lt_irrefl, if_false]
          exact inductionHypothesis after
      | succ further =>
          simp only [Nat.lt_add_right_iff_pos, Nat.zero_lt_succ, if_true]
          rfl

/-- A turn inside the source succeeds, and lays out the slice that the text at hand
gives. -/
theorem turn?_eq (cursor : Cursor) (here : source.drop cursor.offset = c :: rest) :
    turn? dialect source order cursor =
      let slice := firstSlice dialect cursor.record cursor.offset c rest order
      some ⟨cursor.offset + slice.further + 1, slice.record,
        cursor.builder.emit ⟨slice.cls, c :: rest.take slice.further⟩⟩ := by
  have slice_le := further_firstSlice_le dialect cursor.record cursor.offset c rest order
  unfold turn?
  rw [firstStop?_eq dialect order cursor.record here]
  generalize firstSlice dialect cursor.record cursor.offset c rest order = slice at slice_le ⊢
  have inside : cursor.offset + slice.further + 1 ≤ source.length := by
    have left := congrArg List.length here
    rw [List.length_drop, List.length_cons] at left
    omega
  have extent : cursor.offset + slice.further + 1 - cursor.offset = slice.further + 1 := by omega
  simp only [slice?, if_pos inside, extent, here, Option.map_some, List.take_succ_cons]

/-- A run from a place lays out the pieces of the text that is left there. -/
theorem run?_eq (cursor : Cursor) :
    run? dialect source order cursor =
      some (cursor.builder.emitAll (piecesFrom dialect order cursor.record cursor.offset
        (source.drop cursor.offset))).tokens := by
  fun_induction run? dialect source order cursor with
  | case1 cursor inside failed =>
      rw [turn?_eq dialect order cursor (List.drop_eq_getElem_cons inside)] at failed
      contradiction
  | case2 cursor inside next turned inductionHypothesis =>
      have here := List.drop_eq_getElem_cons inside
      rw [turn?_eq dialect order cursor here] at turned
      have left : ∀ further, source.drop (cursor.offset + further + 1) =
          (source.drop (cursor.offset + 1)).drop further := by
        intro further
        rw [List.drop_drop, Nat.add_right_comm]
      rw [inductionHypothesis, ← Option.some.inj turned, left, here, piecesFrom,
        TokenBuilder.emitAll_cons]
  | case3 cursor ended =>
      rw [List.drop_eq_nil_of_le (Nat.le_of_not_lt ended), piecesFrom, TokenBuilder.emitAll_nil]

/-- The checked scan never fails, and makes the tokens of the scan. -/
theorem checkedTokens?_eq (source : Text) :
    checkedTokens? dialect source order = some (tokens dialect order source) :=
  run?_eq dialect order _

end

end Code

/-- Every scan covers its text: the tokens of a text partition it in every language and in
none, as which an unknown name counts.  The scan for programming languages does so for
every dialect and every list of rules, without a look past the end of the text. -/
theorem partition_of_every_scan (text : Text) :
    (∀ language : Option Language, Token.Partition text (highlight text language)) ∧
      ∀ (dialect : Dialect) (order : List ScanRule),
        Code.checkedTokens? dialect text order = some (Code.tokens dialect order text) ∧
          Token.Partition text (Code.tokens dialect order text) :=
  ⟨partition_highlight text, fun dialect order =>
    ⟨Code.checkedTokens?_eq dialect order text, Code.partition_tokens dialect order text⟩⟩

end Highlighter
