import Highlighter.Proofs.Delimiters

/-!
# What a text can start with for each rule

A rule applies only to some first characters: the rule for strings to a quote, the rules for words
to a word character, and so on.  Two rules can apply to the same text only when they share one of
these openings.
-/

namespace Highlighter

/-- What the first character of a text is to the rules. -/
inductive Opening where
  | quote
  /-- A character that is neither a quote nor a word character nor a blank. -/
  | mark
  | word
  | blank
  deriving DecidableEq, Repr

/-- The opening that a character makes. -/
def Opening.of (c : Char) : Opening :=
  if isWordChar c then .word
  else if isAsciiBlank c then .blank
  else if (Quote.ofChar? c).isSome then .quote
  else .mark

/-- The openings to which a rule can apply. -/
def ScanRule.openings : ScanRule → List Opening
  | string => [.quote]
  | comment => [.mark]
  | keyword | type | number | functionCall | identifier => [.word]
  | punctuation => [.quote, .mark]
  | whitespace => [.blank]

/-- The line marker of a style of comments starts with a mark. -/
def CommentStyle.StartsWithMark (style : CommentStyle) : Prop :=
  ∃ first later, style.lineMarker = first :: later ∧ Opening.of first = .mark

theorem startsWithMark_of_ofLanguage? {language : Language} {dialect : Dialect}
    (builtIn : Dialect.ofLanguage? language = some dialect) :
    dialect.comments.StartsWithMark := by
  cases language <;> cases builtIn <;> exact ⟨_, _, rfl, by decide⟩

namespace Opening

variable {c : Char}

theorem of_eq_word_iff : of c = .word ↔ isWordChar c = true := by
  unfold of
  split_ifs <;> simp_all

theorem of_eq_blank_iff : of c = .blank ↔ isAsciiBlank c = true := by
  unfold of
  split_ifs with word
  · constructor
    · nofun
    · intro blank
      rw [isWordChar_eq_false_of_isAsciiBlank blank] at word
      contradiction
  all_goals simp_all

@[simp]
theorem of_mark (quote : Quote) : of quote.mark = .quote := by
  cases quote <;> rfl

end Opening

namespace Code

open ScanRule

variable {dialect : Dialect} {c : Char} {rest : Text}

/-- A comment starts with a mark. -/
theorem opening_of_comment (marked : dialect.comments.StartsWithMark)
    (applies : commentLength dialect.comments (c :: rest) ≠ 0) : Opening.of c = .mark := by
  have slash : Opening.of '/' = .mark := rfl
  rcases CommentStyle.commentLength_cases applies with
    ⟨line, _⟩ | ⟨_, ⟨_, _, block, _⟩ | ⟨_, block, _⟩⟩
  · rcases marked with ⟨first, later, starts, opening⟩
    rw [starts, List.cons_prefix_cons] at line
    rw [← line.1]
    exact opening
  · rw [(List.cons.inj block).1]
    exact slash
  · rw [(List.cons.inj block).1]
    exact slash

/-- A rule applies only to its own openings. -/
theorem opening_mem_openings (marked : dialect.comments.StartsWithMark) {rule : ScanRule}
    (applies : rule.freshExtent dialect c rest ≠ 0) : Opening.of c ∈ rule.openings := by
  cases rule with
  | string =>
      by_contra unquoted
      apply applies
      apply freshExtent_string_eq_zero
      rintro quote rfl
      apply unquoted
      rw [Opening.of_mark]
      exact List.mem_cons_self
  | comment =>
      rw [opening_of_comment marked applies]
      exact List.mem_cons_self
  | keyword | type | number | functionCall | identifier =>
      have word : isWordChar c = true := by
        rw [← Bool.not_eq_false]
        intro noWord
        exact applies (freshExtent_of_noWord noWord (by decide))
      rw [Opening.of_eq_word_iff.mpr word]
      exact List.mem_cons_self
  | punctuation =>
      have passed : ¬(isWordChar c || isAsciiBlank c) = true := fun skipped =>
        applies (if_pos skipped)
      rw [Bool.or_eq_true, not_or, ← Opening.of_eq_word_iff, ← Opening.of_eq_blank_iff] at passed
      revert passed
      cases Opening.of c <;> decide
  | whitespace =>
      have blank : isAsciiBlank c = true := by
        rw [← Bool.not_eq_false]
        intro noBlank
        exact applies (Text.countWhile_cons_eq_zero noBlank rest)
      rw [Opening.of_eq_blank_iff.mpr blank]
      exact List.mem_cons_self

end Code

end Highlighter
