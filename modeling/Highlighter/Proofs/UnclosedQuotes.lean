import Highlighter.Scan.Quote

/-!
# Quotes that never close, and the record of them

A search for the end of a string reads the text in steps: one character, or a backslash
with the character after it.  A search that fails reads up to the end of the text, so
any later quote of the same kind was the second half of such a pair.  A search that
starts at that quote therefore continues where the failed one did, and fails as well.

A record that holds only failures hence gives the answers that searching again would
give.  For questions in any order, it holds the least failing offset of each quote.
-/

namespace Highlighter

/-! ## Later quotes of a failed search -/

namespace Quote

/-- No string of a quote starts anywhere in a text. -/
def NeverCloses (quote : Quote) (text : Text) : Prop :=
  ∀ count, quote.stringLength? (text.drop count) = none

theorem NeverCloses.drop {quote : Quote} {text : Text} (never : quote.NeverCloses text)
    (count : Nat) : quote.NeverCloses (text.drop count) := by
  intro further
  rw [List.drop_drop]
  exact never (count + further)

theorem NeverCloses.here {quote : Quote} {text : Text} (never : quote.NeverCloses text) :
    quote.stringLength? text = none :=
  never 0

theorem neverCloses_nil (quote : Quote) : quote.NeverCloses [] := by
  intro count
  rw [List.drop_nil]
  rfl

theorem neverCloses_cons {quote : Quote} {c : Char} {rest : Text}
    (here : quote.stringLength? (c :: rest) = none) (later : quote.NeverCloses rest) :
    quote.NeverCloses (c :: rest) := by
  intro count
  cases count with
  | zero => exact here
  | succ further => exact later further

/-- A character other than the quote starts no string. -/
theorem stringLength?_cons_of_ne {quote : Quote} {c : Char} (different : c ≠ quote.mark)
    (rest : Text) : quote.stringLength? (c :: rest) = none :=
  if_neg different

/-- A quote starts no string where the search after it fails. -/
theorem stringLength?_cons_of_closingLength?_eq_none {quote : Quote} {rest : Text}
    (failed : quote.closingLength? rest = none) (c : Char) :
    quote.stringLength? (c :: rest) = none := by
  simp only [stringLength?, failed, Option.map_none, ite_self]

/-- Where the search for a closing quote fails, so does the search after any later quote:
the induction follows the steps of the search, and a quote that it steps over is the
second half of an escape. -/
theorem neverCloses_of_closingLength?_eq_none {quote : Quote} {text : Text}
    (failed : quote.closingLength? text = none) : quote.NeverCloses text := by
  fun_induction closingLength? quote text with
  | case1 => exact quote.neverCloses_nil
  | case2 => contradiction
  | case3 c unquoted =>
      exact neverCloses_cons (stringLength?_cons_of_ne unquoted []) quote.neverCloses_nil
  | case4 => contradiction
  | case5 d rest unquoted inductionHypothesis =>
      have afterEscape : quote.closingLength? rest = none := Option.map_eq_none_iff.mp failed
      apply neverCloses_cons (stringLength?_cons_of_ne unquoted (d :: rest))
      apply neverCloses_cons (stringLength?_cons_of_closingLength?_eq_none afterEscape d)
      exact inductionHypothesis afterEscape
  | case6 c d rest unquoted plain inductionHypothesis =>
      apply neverCloses_cons (stringLength?_cons_of_ne unquoted (d :: rest))
      exact inductionHypothesis (Option.map_eq_none_iff.mp failed)

/-- Where a quote does not close, no later quote of the same kind does. -/
theorem neverCloses_of_stringLength?_eq_none {quote : Quote} {text : Text}
    (opened : text.head? = some quote.mark) (failed : quote.stringLength? text = none) :
    quote.NeverCloses text := by
  obtain ⟨rest, rfl⟩ := List.head?_eq_some_iff.mp opened
  apply neverCloses_cons failed
  simp only [stringLength?, if_pos, Option.map_eq_none_iff] at failed
  exact neverCloses_of_closingLength?_eq_none failed

end Quote

/-- With nothing on record, the answer is that of a search. -/
theorem QuoteRecord.fst_stringLength?_empty (quote : Quote) (offset : Nat) (text : Text) :
    (empty.stringLength? quote offset text).1 = quote.stringLength? text := by
  unfold stringLength?
  rw [failure?_empty]
  cases quote.stringLength? text <;> rfl

/-! ## Questions in any order -/

/-- The question whether a string of a quote closes that starts at an offset. -/
structure QuoteQuestion where
  quote : Quote
  offset : Nat
  deriving DecidableEq, Repr

namespace QuoteQuestion

/-- The quote stands at the offset. -/
def Opens (question : QuoteQuestion) (source : Text) : Prop :=
  source[question.offset]? = some question.quote.mark

/-- The end of the closed string, and the record after the question. -/
def answer (source : Text) (record : QuoteRecord) (question : QuoteQuestion) :
    Option Nat × QuoteRecord :=
  let (length, after) :=
    record.stringLength? question.quote question.offset (source.drop question.offset)
  (length.map (question.offset + ·), after)

/-- The answers to questions in turn, and the record after all of them. -/
def answers (source : Text) (record : QuoteRecord) :
    List QuoteQuestion → List (Option Nat) × QuoteRecord
  | [] => ([], record)
  | question :: later =>
      let (end?, after) := question.answer source record
      let (others, reached) := answers source after later
      (end? :: others, reached)

/-- The answer when nothing is on record. -/
def freshAnswer (source : Text) (question : QuoteQuestion) : Option Nat :=
  (question.answer source .empty).1

/-- The offsets at which strings of a quote were asked for and do not close. -/
def failures (source : Text) (quote : Quote) (asked : List QuoteQuestion) : List Nat :=
  (asked.filter fun question =>
    question.quote = quote ∧ question.freshAnswer source = none).map (·.offset)

variable {source : Text} {asked : List QuoteQuestion}

theorem freshAnswer_eq (source : Text) (question : QuoteQuestion) :
    question.freshAnswer source =
      (question.quote.stringLength? (source.drop question.offset)).map
        (question.offset + ·) := by
  rw [← QuoteRecord.fst_stringLength?_empty _ question.offset]
  rfl

theorem freshAnswer_eq_none_iff {question : QuoteQuestion} :
    question.freshAnswer source = none ↔
      question.quote.stringLength? (source.drop question.offset) = none := by
  rw [freshAnswer_eq, Option.map_eq_none_iff]

/-- A question that fails adds a failure of its quote. -/
theorem failures_concat_of_failed {question : QuoteQuestion}
    (failed : question.freshAnswer source = none) (asked : List QuoteQuestion) :
    failures source question.quote (asked ++ [question]) =
      failures source question.quote asked ++ [question.offset] := by
  simp [failures, List.filter_append, failed]

/-- A question that is answered, or is about another quote, adds no failure. -/
theorem failures_concat_of_ne {question : QuoteQuestion} {quote : Quote}
    (spared : question.quote = quote → question.freshAnswer source ≠ none)
    (asked : List QuoteQuestion) :
    failures source quote (asked ++ [question]) = failures source quote asked := by
  have dropped : ¬(question.quote = quote ∧ question.freshAnswer source = none) :=
    fun both => spared both.1 both.2
  simp [failures, List.filter_append, dropped]

/-- From a failure on, no string of the quote closes. -/
theorem neverCloses_of_mem_failures (opening : ∀ question ∈ asked, question.Opens source)
    {quote : Quote} {offset : Nat} (failed : offset ∈ failures source quote asked) :
    quote.NeverCloses (source.drop offset) := by
  obtain ⟨question, member, rfl⟩ := List.mem_map.mp failed
  obtain ⟨wasAsked, found⟩ := List.mem_filter.mp member
  obtain ⟨rfl, unanswered⟩ := of_decide_eq_true found
  apply Quote.neverCloses_of_stringLength?_eq_none
  · rw [List.head?_drop]
    exact opening question wasAsked
  · exact freshAnswer_eq_none_iff.mp unanswered

end QuoteQuestion

theorem min?_concat (offsets : List Nat) (offset : Nat) :
    (offsets ++ [offset]).min? = some (offsets.min?.elim offset (min · offset)) := by
  cases offsets with
  | nil => rfl
  | cons first later =>
      simp only [List.cons_append, List.min?_cons', List.foldl_append, List.foldl_cons,
        List.foldl_nil, Option.elim_some]

namespace QuoteRecord

/-- What a record does with a question: it answers by an earlier failure, or it searches
and notes a failure. -/
theorem stringLength?_cases (record : QuoteRecord) (quote : Quote) (offset : Nat)
    (text : Text) :
    (∃ first, record.failure? quote = some first ∧ first ≤ offset ∧
        record.stringLength? quote offset text = (none, record)) ∨
      (∀ first, record.failure? quote = some first → offset < first) ∧
        ((∃ length, quote.stringLength? text = some length ∧
            record.stringLength? quote offset text = (some length, record)) ∨
          quote.stringLength? text = none ∧
            record.stringLength? quote offset text = (none, record.note offset quote)) := by
  have searched : (record.failure? quote).any (· ≤ offset) ≠ true →
      (∃ length, quote.stringLength? text = some length ∧
          record.stringLength? quote offset text = (some length, record)) ∨
        quote.stringLength? text = none ∧
          record.stringLength? quote offset text = (none, record.note offset quote) := by
    intro unknown
    unfold stringLength?
    rw [if_neg unknown]
    cases quote.stringLength? text with
    | none => exact Or.inr ⟨rfl, rfl⟩
    | some length => exact Or.inl ⟨length, rfl, rfl⟩
  cases recorded : record.failure? quote with
  | none =>
      right
      exact ⟨by simp, searched (by simp [recorded])⟩
  | some first =>
      by_cases before : first ≤ offset
      · left
        refine ⟨first, rfl, before, ?_⟩
        unfold stringLength?
        rw [recorded, if_pos (by simpa using before)]
      · right
        refine ⟨?_, searched (by simpa [recorded] using before)⟩
        intro other same
        rw [← Option.some.inj same]
        exact Nat.lt_of_not_le before

/-- A record sums up the questions asked when it holds, for each quote, the least of its
failures. -/
def SumsUp (record : QuoteRecord) (source : Text) (asked : List QuoteQuestion) : Prop :=
  ∀ quote, record.failure? quote = (QuoteQuestion.failures source quote asked).min?

variable {record : QuoteRecord} {source : Text} {asked : List QuoteQuestion}

theorem sumsUp_empty (source : Text) : empty.SumsUp source [] :=
  fun quote => failure?_empty quote

/-- From a recorded failure on, no string of the quote closes. -/
theorem SumsUp.neverCloses (sumsUp : record.SumsUp source asked)
    (opening : ∀ question ∈ asked, question.Opens source) {quote : Quote} {first : Nat}
    (recorded : record.failure? quote = some first) :
    quote.NeverCloses (source.drop first) := by
  apply QuoteQuestion.neverCloses_of_mem_failures opening
  apply List.min?_mem
  rw [← sumsUp quote, recorded]

/-- A record stays as it is when no failure is new. -/
theorem SumsUp.concat_of_answered (sumsUp : record.SumsUp source asked)
    {question : QuoteQuestion} (answered : question.freshAnswer source ≠ none) :
    record.SumsUp source (asked ++ [question]) := by
  intro quote
  rw [QuoteQuestion.failures_concat_of_ne fun _ => answered]
  exact sumsUp quote

/-- A record stays as it is when a failure lies at or past the one it holds. -/
theorem SumsUp.concat_of_le (sumsUp : record.SumsUp source asked)
    {question : QuoteQuestion} {first : Nat}
    (recorded : record.failure? question.quote = some first) (before : first ≤ question.offset)
    (failed : question.freshAnswer source = none) :
    record.SumsUp source (asked ++ [question]) := by
  intro quote
  by_cases same : question.quote = quote
  · subst same
    rw [QuoteQuestion.failures_concat_of_failed failed, min?_concat, ← sumsUp, recorded,
      Option.elim_some, Nat.min_eq_left before]
  · rw [QuoteQuestion.failures_concat_of_ne fun equal => absurd equal same]
    exact sumsUp quote

/-- A failure before the recorded one, or the first of its quote, is noted. -/
theorem SumsUp.note (sumsUp : record.SumsUp source asked) {question : QuoteQuestion}
    (earliest : ∀ first, record.failure? question.quote = some first → question.offset < first)
    (failed : question.freshAnswer source = none) :
    (record.note question.offset question.quote).SumsUp source (asked ++ [question]) := by
  intro quote
  by_cases same : question.quote = quote
  · subst same
    rw [failure?_note_self, QuoteQuestion.failures_concat_of_failed failed, min?_concat,
      ← sumsUp]
    cases recorded : record.failure? question.quote with
    | none => rfl
    | some first =>
        rw [Option.elim_some, Nat.min_eq_right (Nat.le_of_lt (earliest first recorded))]
  · rw [failure?_note_of_ne _ _ (Ne.symm same),
      QuoteQuestion.failures_concat_of_ne fun equal => absurd equal same]
    exact sumsUp quote

/-- One more question is answered as if nothing were on record, and summed up. -/
theorem SumsUp.answer (sumsUp : record.SumsUp source asked)
    (opening : ∀ question ∈ asked, question.Opens source) (question : QuoteQuestion) :
    (question.answer source record).1 = question.freshAnswer source ∧
      (question.answer source record).2.SumsUp source (asked ++ [question]) := by
  have fresh := question.freshAnswer_eq source
  unfold QuoteQuestion.answer
  rcases record.stringLength?_cases question.quote question.offset
      (source.drop question.offset) with
    ⟨first, recorded, before, answered⟩ |
      ⟨earliest, ⟨length, found, answered⟩ | ⟨failed, answered⟩⟩
  · have failed := sumsUp.neverCloses opening recorded (question.offset - first)
    rw [List.drop_drop, Nat.add_sub_cancel' before] at failed
    rw [failed] at fresh
    rw [answered, fresh]
    exact ⟨rfl, sumsUp.concat_of_le recorded before fresh⟩
  · rw [found] at fresh
    rw [answered, fresh]
    exact ⟨rfl, sumsUp.concat_of_answered (by simp [fresh])⟩
  · rw [failed] at fresh
    rw [answered, fresh]
    exact ⟨rfl, sumsUp.note earliest fresh⟩

/-- Questions in turn are answered as if nothing were on record, and summed up. -/
theorem SumsUp.answers (sumsUp : record.SumsUp source asked) (later : List QuoteQuestion)
    (opening : ∀ question ∈ asked ++ later, question.Opens source) :
    (QuoteQuestion.answers source record later).1 =
        later.map (QuoteQuestion.freshAnswer source) ∧
      (QuoteQuestion.answers source record later).2.SumsUp source (asked ++ later) := by
  induction later generalizing record asked with
  | nil =>
      rw [List.append_nil]
      exact ⟨rfl, sumsUp⟩
  | cons question others inductionHypothesis =>
      have openingAsked : ∀ earlier ∈ asked, earlier.Opens source :=
        fun earlier member => opening earlier (List.mem_append_left _ member)
      obtain ⟨answered, summed⟩ := sumsUp.answer openingAsked question
      rw [List.append_cons] at opening ⊢
      obtain ⟨othersAnswered, reached⟩ := inductionHypothesis summed opening
      refine ⟨?_, reached⟩
      rw [List.map_cons, ← answered, ← othersAnswered]
      rfl

end QuoteRecord

end Highlighter
