import Highlighter.Proofs.Extent
import Highlighter.Proofs.UnclosedQuotes
import Mathlib.Data.List.TakeWhile

/-!
# Closing quotes by the parity of backslashes

The search for the end of a string goes through the text in steps, and takes a backslash
together with the character behind it.  Where a string ends can be told without the steps: a
quote closes the string when the number of backslashes directly before it is even, counted
behind the opening quote, and the string ends with the first such quote.

A step never changes the parity that a later quote sees.  A plain character ends the run of
backslashes before it, and an escape either ends the run as well or lengthens it by two.
-/

namespace Highlighter

namespace Text

/-- The number of backslashes at the end of a text. -/
def trailingBackslashes (text : Text) : Nat :=
  Text.countWhile (· == '\\') text.reverse

/-- A text of backslashes only ends with all of them. -/
theorem trailingBackslashes_of_all {text : Text} (all : ∀ c ∈ text, c = '\\') :
    text.trailingBackslashes = text.length := by
  have whole : text.reverse.takeWhile (· == '\\') = text.reverse := by
    rw [List.takeWhile_eq_self_iff]
    intro c member
    simpa using all c (List.mem_reverse.mp member)
  rw [trailingBackslashes, countWhile, whole, List.length_reverse]

/-- A character in front does not count when it is no backslash, or when another character
stands between it and the end. -/
theorem trailingBackslashes_cons {c : Char} {text : Text}
    (apart : c ≠ '\\' ∨ ∃ other ∈ text, other ≠ '\\') :
    trailingBackslashes (c :: text) = trailingBackslashes text := by
  unfold trailingBackslashes countWhile
  rw [List.reverse_cons, List.takeWhile_append]
  split
  · rename_i whole
    have same : text.reverse.takeWhile (· == '\\') = text.reverse :=
      (List.takeWhile_prefix _).eq_of_length whole
    rcases apart with unlike | ⟨other, member, unlike⟩
    · rw [List.takeWhile_cons, if_neg (by simpa using unlike), List.append_nil, same]
    · have passed := List.takeWhile_eq_self_iff.mp same other (List.mem_reverse.mpr member)
      exact absurd (by simpa using passed) unlike
  · rfl

/-- An escape in front does not change the parity. -/
theorem trailingBackslashes_escape (d : Char) (text : Text) :
    trailingBackslashes ('\\' :: d :: text) % 2 = trailingBackslashes text % 2 := by
  by_cases all : ∀ c ∈ text, c = '\\'
  · by_cases escaped : d = '\\'
    · have allBefore : ∀ c ∈ '\\' :: d :: text, c = '\\' := by
        simpa [escaped] using all
      rw [trailingBackslashes_of_all allBefore, trailingBackslashes_of_all all]
      exact Nat.add_mod_right text.length 2
    · rw [trailingBackslashes_cons (Or.inr ⟨d, List.mem_cons_self, escaped⟩),
        trailingBackslashes_cons (Or.inl escaped)]
  · have between : ∃ other ∈ text, other ≠ '\\' := by simpa using all
    obtain ⟨other, member, unlike⟩ := between
    rw [trailingBackslashes_cons (Or.inr ⟨other, List.mem_cons_of_mem d member, unlike⟩),
      trailingBackslashes_cons (Or.inr ⟨other, member, unlike⟩)]

end Text

namespace Quote

variable {quote : Quote} {text : Text}

/-- No quote in a text closes a string that is open before the text: an odd number of
backslashes stands directly before each of them. -/
def Unclosable (quote : Quote) (text : Text) : Prop :=
  ∀ front back, text = front ++ quote.mark :: back → front.trailingBackslashes % 2 = 1

/-- A quote behind a text closes the string that is open before it, and no quote in the text
does: an even number of backslashes stands directly before the one that closes. -/
structure Closes (quote : Quote) (inside : Text) : Prop where
  unescaped : inside.trailingBackslashes % 2 = 0
  first : quote.Unclosable inside

theorem mark_ne_backslash (quote : Quote) : quote.mark ≠ '\\' := by
  cases quote <;> decide

theorem unclosable_nil (quote : Quote) : quote.Unclosable [] := by
  intro front back split
  cases front <;> contradiction

theorem closes_nil (quote : Quote) : quote.Closes [] :=
  ⟨rfl, quote.unclosable_nil⟩

theorem not_unclosable_mark (quote : Quote) (rest : Text) :
    ¬quote.Unclosable (quote.mark :: rest) :=
  fun unclosable => absurd (unclosable [] rest rfl) (by decide)

theorem unclosable_singleton {c : Char} (unquoted : c ≠ quote.mark) : quote.Unclosable [c] := by
  intro front back split
  cases front with
  | nil => exact absurd (List.cons.inj split).1 unquoted
  | cons d later =>
      have vanished := (List.cons.inj split).2
      cases later <;> contradiction

/-- A character that is neither the quote nor a backslash does not matter. -/
theorem unclosable_cons_iff {c : Char} (unquoted : c ≠ quote.mark) (unescaped : c ≠ '\\') :
    quote.Unclosable (c :: text) ↔ quote.Unclosable text := by
  constructor
  · rintro unclosable front back rfl
    rw [← Text.trailingBackslashes_cons (Or.inl unescaped)]
    exact unclosable (c :: front) back rfl
  · intro unclosable front back split
    cases front with
    | nil => exact absurd (List.cons.inj split).1 unquoted
    | cons d later =>
        obtain ⟨rfl, rest⟩ := List.cons.inj split
        rw [Text.trailingBackslashes_cons (Or.inl unescaped)]
        exact unclosable later back rest

/-- An escape does not matter. -/
theorem unclosable_escape_iff {d : Char} :
    quote.Unclosable ('\\' :: d :: text) ↔ quote.Unclosable text := by
  constructor
  · rintro unclosable front back rfl
    rw [← Text.trailingBackslashes_escape d]
    exact unclosable ('\\' :: d :: front) back rfl
  · intro unclosable front back split
    cases front with
    | nil => exact absurd (List.cons.inj split).1.symm quote.mark_ne_backslash
    | cons c later =>
        obtain ⟨rfl, rest⟩ := List.cons.inj split
        cases later with
        | nil => rfl
        | cons e others =>
            obtain ⟨rfl, further⟩ := List.cons.inj rest
            rw [Text.trailingBackslashes_escape]
            exact unclosable others back further

/-- The search for a closing quote fails exactly where no quote closes. -/
theorem closingLength?_eq_none_iff :
    quote.closingLength? text = none ↔ quote.Unclosable text := by
  fun_induction closingLength? quote text with
  | case1 => exact iff_of_true rfl quote.unclosable_nil
  | case2 => exact iff_of_false (Option.some_ne_none 1) (quote.not_unclosable_mark [])
  | case3 c unquoted => exact iff_of_true rfl (unclosable_singleton unquoted)
  | case4 d rest => exact iff_of_false (Option.some_ne_none 1) (quote.not_unclosable_mark (d :: rest))
  | case5 d rest unquoted inductionHypothesis =>
      rw [Option.map_eq_none_iff, inductionHypothesis, unclosable_escape_iff]
  | case6 c d rest unquoted unescaped inductionHypothesis =>
      rw [Option.map_eq_none_iff, inductionHypothesis, unclosable_cons_iff unquoted unescaped]

/-- The search for a closing quote finds the first one that closes. -/
theorem closes_of_closingLength? {length : Nat} (found : quote.closingLength? text = some length) :
    ∃ inside after, text = inside ++ quote.mark :: after ∧ quote.Closes inside ∧
      length = inside.length + 1 := by
  fun_induction closingLength? quote text generalizing length with
  | case1 | case3 => contradiction
  | case2 =>
      cases found
      exact ⟨[], [], rfl, quote.closes_nil, rfl⟩
  | case4 d rest =>
      cases found
      exact ⟨[], d :: rest, rfl, quote.closes_nil, rfl⟩
  | case5 d rest unquoted inductionHypothesis =>
      obtain ⟨shorter, laterFound, rfl⟩ := Option.map_eq_some_iff.mp found
      obtain ⟨inside, after, split, closes, rfl⟩ := inductionHypothesis laterFound
      refine ⟨'\\' :: d :: inside, after, by rw [split]; rfl, ?_, rfl⟩
      constructor
      · rw [Text.trailingBackslashes_escape]
        exact closes.unescaped
      · exact unclosable_escape_iff.mpr closes.first
  | case6 c d rest unquoted unescaped inductionHypothesis =>
      obtain ⟨shorter, laterFound, rfl⟩ := Option.map_eq_some_iff.mp found
      obtain ⟨inside, after, split, closes, rfl⟩ := inductionHypothesis laterFound
      refine ⟨c :: inside, after, by rw [split]; rfl, ?_, rfl⟩
      constructor
      · rw [Text.trailingBackslashes_cons (Or.inl unescaped)]
        exact closes.unescaped
      · exact (unclosable_cons_iff unquoted unescaped).mpr closes.first

/-! ## Strings with their quotes -/

/-- A quote starts no string exactly where no later quote closes it. -/
theorem stringLength?_mark_eq_none_iff :
    quote.stringLength? (quote.mark :: text) = none ↔ quote.Unclosable text := by
  rw [stringLength?, if_pos rfl, Option.map_eq_none_iff, closingLength?_eq_none_iff]

/-- A string is its quotes and what they enclose. -/
theorem closes_of_stringLength? {length : Nat} (found : quote.stringLength? text = some length) :
    ∃ inside after, text = quote.mark :: (inside ++ quote.mark :: after) ∧ quote.Closes inside ∧
      text.take length = quote.mark :: (inside ++ [quote.mark]) ∧ text.drop length = after := by
  obtain ⟨rest, closing, rfl, closingFound, rfl⟩ := closingLength?_of_stringLength?_eq_some found
  obtain ⟨inside, after, rfl, closes, rfl⟩ := closes_of_closingLength? closingFound
  have extent : inside.length + 1 = (inside ++ [quote.mark]).length := by
    rw [List.length_append, List.length_singleton]
  have parts := List.append_cons inside quote.mark after
  refine ⟨inside, after, rfl, closes, ?_, ?_⟩
  · rw [List.take_succ_cons, extent, parts, List.take_left]
  · rw [List.drop_succ_cons, extent, parts, List.drop_left]

end Quote

end Highlighter
