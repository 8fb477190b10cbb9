import Highlighter.Proofs.Coverage
import Highlighter.Scan.Loose

/-!
# Loose texts and their tokens

The tokens of a loose text cover it: put together they are the text, surrogates among them, and
each starts where the text before it ends.  Both follow from the scan of the text with other
characters in place of its surrogates, which moves no line feed and no place.

A text without surrogates is scanned as the text that it is.
-/

namespace Highlighter

namespace LooseText

/-- No code point of a text is a surrogate. -/
def IsScalar (text : LooseText) : Prop :=
  ∀ point ∈ text, point.isSurrogate = false

instance (text : LooseText) : Decidable text.IsScalar :=
  inferInstanceAs (Decidable (∀ point ∈ text, _))

theorem isScalar_append {first second : LooseText} :
    IsScalar (first ++ second) ↔ first.IsScalar ∧ second.IsScalar :=
  List.forall_mem_append

theorem isScalar_ofText (text : Text) : (ofText text).IsScalar := by
  intro point member
  obtain ⟨c, _, rfl⟩ := List.mem_map.mp member
  rfl

theorem scanned_append (first second : LooseText) :
    scanned (first ++ second) = first.scanned ++ second.scanned :=
  List.map_append

/-- What is scanned in two pieces is cut into two pieces. -/
theorem scanned_cut {text : LooseText} {first rest : Text} (whole : text.scanned = first ++ rest) :
    scanned (text.take first.length) = first ∧ scanned (text.drop first.length) = rest := by
  rw [scanned, scanned, List.map_take, List.map_drop, ← scanned, whole]
  exact ⟨List.take_left, List.drop_left⟩

theorem scanned_ofText (text : Text) : (ofText text).scanned = text := by
  rw [scanned, ofText, List.map_map]
  exact List.map_id text

/-! ## Surrogates -/

/-- A text has a first surrogate exactly if one of its code points is one. -/
theorem firstSurrogate?_eq_none_iff {position : Nat} {text : LooseText} :
    firstSurrogate? (fun _ => true) position text = none ↔ text.IsScalar := by
  induction text generalizing position with
  | nil => simp [firstSurrogate?, IsScalar]
  | cons point rest inductionHypothesis =>
      cases point with
      | scalar c => simp [firstSurrogate?, inductionHypothesis, IsScalar, CodePoint.isSurrogate]
      | surrogate point => simp [firstSurrogate?, IsScalar, CodePoint.isSurrogate]

theorem utf16Fault?_eq_none_iff {text : LooseText} : text.utf16Fault? = none ↔ text.IsScalar := by
  rw [utf16Fault?, Option.map_eq_none_iff, firstSurrogate?_eq_none_iff]

/-- Characters behind a text do not change which surrogate is the first. -/
theorem firstSurrogate?_append {refused : Surrogate → Bool} {position : Nat} (text : LooseText)
    {tail : LooseText} (scalar : tail.IsScalar) :
    firstSurrogate? refused position (text ++ tail) =
      (firstSurrogate? refused position text).map fun (place, first, rest) =>
        (place, first, rest ++ tail) := by
  induction text generalizing position with
  | nil =>
      rw [List.nil_append]
      induction tail generalizing position with
      | nil => rfl
      | cons point rest inductionHypothesis =>
          obtain ⟨own, others⟩ := List.forall_mem_cons.mp scalar
          cases point with
          | scalar c => exact inductionHypothesis others
          | surrogate point => contradiction
  | cons point rest inductionHypothesis =>
      cases point with
      | scalar c => exact inductionHypothesis
      | surrogate point =>
          rw [List.cons_append, firstSurrogate?, firstSurrogate?]
          split
          · rfl
          · exact inductionHypothesis

theorem utf16Fault?_append (text : LooseText) {tail : LooseText} (scalar : tail.IsScalar) :
    utf16Fault? (text ++ tail) = text.utf16Fault? := by
  rw [utf16Fault?, firstSurrogate?_append text scalar, Option.map_map]
  rfl

/-! ## Line feeds -/

/-- A surrogate is no line feed for a scan either. -/
theorem scanned_eq_lineFeed_iff {point : CodePoint} :
    point.scanned = '\n' ↔ point = .scalar '\n' := by
  cases point with
  | scalar c => rw [CodePoint.scanned, CodePoint.scalar.injEq]
  | surrogate point => simp [CodePoint.scanned]

theorem count_scanned (text : LooseText) :
    text.scanned.count '\n' = text.count (.scalar '\n') := by
  rw [List.count, List.count, scanned, List.countP_map]
  apply List.countP_congr
  intro point _
  simp [scanned_eq_lineFeed_iff]

end LooseText

namespace LooseToken

theorem source_cons (token : LooseToken) (later : List LooseToken) :
    source (token :: later) = token.text ++ source later :=
  rfl

/-- Tokens of a scan are given back the text that was scanned. -/
theorem source_cutFrom {text : LooseText} {tokens : List Token}
    (covered : Token.source tokens = text.scanned) : source (cutFrom text tokens) = text := by
  induction tokens generalizing text with
  | nil => exact (List.map_eq_nil_iff.mp covered.symm).symm
  | cons token later inductionHypothesis =>
      have later_covered := (LooseText.scanned_cut covered.symm).2.symm
      rw [cutFrom, source_cons, inductionHypothesis later_covered]
      exact List.take_append_drop token.text.length text

/-- Tokens of a text without surrogates get their own texts back. -/
theorem cutFrom_ofText (tokens : List Token) :
    cutFrom (.ofText (Token.source tokens)) tokens = tokens.map ofToken := by
  induction tokens with
  | nil => rfl
  | cons token later inductionHypothesis =>
      have whole : LooseText.ofText (Token.source (token :: later)) =
          .ofText token.text ++ .ofText (Token.source later) := List.map_append
      have extent : token.text.length = (LooseText.ofText token.text).length :=
        (List.length_map _).symm
      rw [cutFrom, whole, extent, List.take_left, List.drop_left, inductionHypothesis]
      rfl

end LooseToken

namespace LooseText

/-- The tokens of a loose text put together are the text. -/
theorem source_highlight (text : LooseText) (language : Option Language) :
    LooseToken.source (text.highlight language) = text :=
  LooseToken.source_cutFrom (partition_highlight text.scanned language).source_eq

/-- A text without surrogates is scanned as the text that it is. -/
theorem highlight_ofText (text : Text) (language : Option Language) :
    (ofText text).highlight language = (Highlighter.highlight text language).map .ofToken := by
  have covered := (partition_highlight text language).source_eq
  rw [highlight, scanned_ofText, ← LooseToken.cutFrom_ofText, covered]

end LooseText

end Highlighter
