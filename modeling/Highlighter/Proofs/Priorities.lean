import Highlighter.Proofs.Openings

/-!
# Only few priorities between the rules matter

The rules can be tried in another order, and more than once, without a change to the tokens, as
long as strings and comments are tried before punctuation, and the rules for words one after the
other.  Any other two rules never apply to the same text, since they share no opening.

Among the rules that apply at a place there is then one that precedes all others, in the standard
order as in the other one, and it decides in both.
-/

namespace Highlighter

namespace ScanRule

/-- The first of two rules has the priority: strings and comments come before punctuation, and the
rules for words one after the other. -/
def Precedes (first second : ScanRule) : Prop :=
  first ∈ [string, comment] ∧ second = punctuation ∨ [first, second].Sublist forWords

/-- An order of the rules that has each of them, perhaps more than once, and keeps the priorities:
by the places where the rules occur first, strings and comments come before punctuation, and the
rules for words one after the other. -/
structure KeepsPriorities (order : List ScanRule) : Prop where
  complete : ∀ rule, rule ∈ order
  marks : ∀ rule ∈ [string, comment], order.idxOf rule < order.idxOf punctuation
  words : [keyword, type, number, functionCall, identifier].Pairwise fun first second =>
    order.idxOf first < order.idxOf second

theorem mem_standard (rule : ScanRule) : rule ∈ standard := by
  cases rule <;> decide

theorem keepsPriorities_standard : KeepsPriorities standard where
  complete := mem_standard
  marks := by decide
  words := by decide

theorem KeepsPriorities.idxOf_lt {order : List ScanRule} (kept : KeepsPriorities order)
    {first second : ScanRule} (precedes : Precedes first second) :
    order.idxOf first < order.idxOf second := by
  rcases precedes with ⟨mark, rfl⟩ | words
  · exact kept.marks first mark
  · exact List.pairwise_iff_forall_sublist.mp kept.words words

/-- Of two rules with a common opening one precedes the other. -/
theorem precedes_of_openings {opening : Opening} {first second : ScanRule}
    (firstOpening : opening ∈ first.openings) (secondOpening : opening ∈ second.openings) :
    first = second ∨ Precedes first second ∨ Precedes second first := by
  have compared : ∀ first ∈ standard, ∀ second ∈ standard, ∀ opening ∈ first.openings,
      opening ∈ second.openings →
        first = second ∨ Precedes first second ∨ Precedes second first := by
    unfold Precedes
    decide
  exact compared first (mem_standard first) second (mem_standard second) opening firstOpening
    secondOpening

/-! ## The rule that decides -/

/-- The rule that is found occurs before all others that could be. -/
theorem idxOf_le_of_find?_eq_some {applies : ScanRule → Bool} {order : List ScanRule}
    {found rule : ScanRule} (decides : order.find? applies = some found)
    (alsoApplies : applies rule = true) : order.idxOf found ≤ order.idxOf rule := by
  induction order with
  | nil => contradiction
  | cons head later inductionHypothesis =>
      rw [List.find?_cons] at decides
      split at decides
      · rw [Option.some.inj decides, List.idxOf_cons_self]
        exact Nat.zero_le _
      · rename_i passed
        have other {rule : ScanRule} (applying : applies rule = true) : head ≠ rule := by
          rintro rfl
          rw [passed] at applying
          contradiction
        rw [List.idxOf_cons_ne _ (other (List.find?_some decides)),
          List.idxOf_cons_ne _ (other alsoApplies)]
        exact Nat.succ_le_succ (inductionHypothesis decides)

/-- Orders that keep the priorities find the same rule, when of any two rules that apply one
precedes the other. -/
theorem find?_eq_of_keepsPriorities {applies : ScanRule → Bool} {order other : List ScanRule}
    (kept : KeepsPriorities order) (otherKept : KeepsPriorities other)
    (comparable : ∀ first second, applies first = true → applies second = true →
      first = second ∨ Precedes first second ∨ Precedes second first) :
    order.find? applies = other.find? applies := by
  cases decides : order.find? applies with
  | none =>
      symm
      rw [List.find?_eq_none] at decides ⊢
      intro rule _
      exact decides rule (kept.complete rule)
  | some first =>
      have firstApplies := List.find?_some decides
      cases otherDecides : other.find? applies with
      | none =>
          rw [List.find?_eq_none] at otherDecides
          exact absurd firstApplies (otherDecides first (otherKept.complete first))
      | some second =>
          have secondApplies := List.find?_some otherDecides
          rcases comparable first second firstApplies secondApplies with rfl | before | behind
          · rfl
          · have le := idxOf_le_of_find?_eq_some otherDecides firstApplies
            exact absurd (otherKept.idxOf_lt before) (Nat.not_lt.mpr le)
          · have le := idxOf_le_of_find?_eq_some decides secondApplies
            exact absurd (kept.idxOf_lt behind) (Nat.not_lt.mpr le)

end ScanRule

namespace Code

open ScanRule

variable {dialect : Dialect} {order : List ScanRule}

/-- The first rule that applies decides the slice. -/
theorem freshSlice_eq_find? (dialect : Dialect) (c : Char) (rest : Text) (order : List ScanRule) :
    freshSlice dialect c rest order =
      match order.find? (·.freshExtent dialect c rest != 0) with
      | none => (.identifier, 0)
      | some rule => (rule.tokenClass, rule.freshExtent dialect c rest - 1) := by
  induction order with
  | nil => rfl
  | cons rule later inductionHypothesis =>
      rw [freshSlice, inductionHypothesis, List.find?_cons]
      cases extent : rule.freshExtent dialect c rest with
      | zero => rfl
      | succ further => simp [extent]

/-- At every place the rule that decides is the one of the standard order. -/
theorem freshSlice_eq_of_keepsPriorities (marked : dialect.comments.StartsWithMark)
    (kept : KeepsPriorities order) (c : Char) (rest : Text) :
    freshSlice dialect c rest order = freshSlice dialect c rest standard := by
  rw [freshSlice_eq_find?, freshSlice_eq_find?,
    find?_eq_of_keepsPriorities kept keepsPriorities_standard]
  intro first second firstApplies secondApplies
  rw [bne_iff_ne] at firstApplies secondApplies
  apply precedes_of_openings
  · exact opening_mem_openings marked firstApplies
  · exact opening_mem_openings marked secondApplies

theorem freshPieces_eq_of_keepsPriorities (marked : dialect.comments.StartsWithMark)
    (kept : KeepsPriorities order) (text : Text) :
    freshPieces dialect order text = freshPieces dialect standard text := by
  fun_induction freshPieces dialect order text with
  | case1 => rw [freshPieces]
  | case2 c rest cls further decided inductionHypothesis =>
      rw [freshSlice_eq_of_keepsPriorities marked kept] at decided
      rw [inductionHypothesis, freshPieces, decided]

/-- Only the documented priorities matter: in the scan of every language with a dialect, the rules
can be put in any order and repeated, if none is left out, strings and comments are tried before
punctuation, and keywords, types, numbers, calls and identifiers in this order. -/
theorem priorities_decide_tokens {language : Language} {dialect : Dialect}
    (builtIn : Dialect.ofLanguage? language = some dialect) {order : List ScanRule}
    (kept : KeepsPriorities order) (text : Text) :
    tokens dialect order text = tokens dialect standard text := by
  have marked := startsWithMark_of_ofLanguage? builtIn
  rw [tokens_eq_freshTokens, tokens_eq_freshTokens, freshTokens, freshTokens,
    freshPieces_eq_of_keepsPriorities marked kept]

/-- An order that starts with comments and white space, and tries some rules twice, makes the same
tokens of ``fn f(`x`, 1.5)`` and a comment. -/
theorem priorities_decide_tokens_shuffled :
    let order : List ScanRule := [.comment, .whitespace, .keyword, .string, .type, .keyword,
      .number, .punctuation, .functionCall, .string, .identifier]
    let text := "fn f(\x60x\x60, 1.5) // \x22".toList
    Dialect.ofLanguage? .rust = some .rust ∧ KeepsPriorities order ∧
      tokens .rust order text = tokens .rust standard text := by
  intro order text
  have builtIn : Dialect.ofLanguage? .rust = some .rust := rfl
  have kept : KeepsPriorities order := by
    constructor
    · intro rule
      cases rule <;> decide
    · decide
    · decide
  exact ⟨builtIn, kept, priorities_decide_tokens builtIn kept text⟩

end Code

end Highlighter
