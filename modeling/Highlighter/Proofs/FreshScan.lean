import Highlighter.Proofs.UnclosedQuotes
import Highlighter.Scan.Code

/-!
# The scan without a record

The scan for programming languages carries the record of unclosed quotes from place to
place.  Here is the same scan with nothing on record at any place: it searches for the
end of every quote, and its pieces depend on the text that is left alone.  The two make
the same tokens, because a record that the scan has built up stays sound for the text
that is left.
-/

namespace Highlighter

/-- How many characters a rule takes of a text that starts with `c` when nothing is on
record.  The offset at which it is asked shows only in the record afterwards. -/
def ScanRule.freshExtent (dialect : Dialect) (c : Char) (rest : Text) (rule : ScanRule) : Nat :=
  (rule.extent dialect .empty 0 c rest).1

namespace Code

/-- The class of the slice at one place and the number of its characters after the first,
by the first rule that applies when nothing is on record. -/
def freshSlice (dialect : Dialect) (c : Char) (rest : Text) : List ScanRule → TokenClass × Nat
  | [] => (.identifier, 0)
  | rule :: later =>
      match rule.freshExtent dialect c rest with
      | 0 => freshSlice dialect c rest later
      | further + 1 => (rule.tokenClass, further)

/-- Slices are the same where the rules take the same, even of different texts. -/
theorem freshSlice_congr {first second : Dialect} {c d : Char} {rest other : Text}
    {order : List ScanRule}
    (same : ∀ rule ∈ order, rule.freshExtent first c rest = rule.freshExtent second d other) :
    freshSlice first c rest order = freshSlice second d other order := by
  induction order with
  | nil => rfl
  | cons rule later inductionHypothesis =>
      have laterSame := inductionHypothesis fun rule member =>
        same rule (List.mem_cons_of_mem _ member)
      rw [freshSlice, freshSlice, same rule List.mem_cons_self, laterSame]

/-- The pieces of a text when every quote is searched for again. -/
def freshPieces (dialect : Dialect) (order : List ScanRule) : Text → List Piece
  | [] => []
  | c :: rest =>
      let (cls, further) := freshSlice dialect c rest order
      ⟨cls, c :: rest.take further⟩ :: freshPieces dialect order (rest.drop further)
termination_by text => text.length
decreasing_by
  simp only [List.length_drop, List.length_cons]
  omega

/-- The tokens of a text when every quote is searched for again. -/
def freshTokens (dialect : Dialect) (order : List ScanRule) (text : Text) : List Token :=
  Token.layout false (freshPieces dialect order text)

end Code

/-- At a quote the length of a string is what the record answers, or else that of a string
without an end. -/
theorem ScanRule.stringLength_eq {c : Char} {quote : Quote}
    (opening : Quote.ofChar? c = some quote) (record : QuoteRecord) (offset : Nat)
    (rest : Text) :
    stringLength record offset c rest =
      ((record.stringLength? quote offset (c :: rest)).1.getD (quote.openLength rest),
        (record.stringLength? quote offset (c :: rest)).2) := by
  simp only [stringLength, opening]
  rcases record.stringLength? quote offset (c :: rest) with ⟨_ | length, after⟩ <;> rfl

/-- A record is sound for the text that is left when no string closes there of any quote
that it holds a failure of. -/
def QuoteRecord.SoundFor (record : QuoteRecord) (text : Text) : Prop :=
  ∀ quote, record.failure? quote ≠ none → quote.NeverCloses text

namespace QuoteRecord

theorem soundFor_empty (text : Text) : empty.SoundFor text :=
  fun quote recorded => absurd (failure?_empty quote) recorded

theorem SoundFor.drop {record : QuoteRecord} {text : Text} (sound : record.SoundFor text)
    (count : Nat) : record.SoundFor (text.drop count) :=
  fun quote recorded => (sound quote recorded).drop count

/-- A failed search keeps the record sound when it is noted. -/
theorem SoundFor.note {record : QuoteRecord} {text : Text} (sound : record.SoundFor text)
    {failed : Quote} (never : failed.NeverCloses text) (offset : Nat) :
    (record.note offset failed).SoundFor text := by
  intro quote recorded
  by_cases same : quote = failed
  · rw [same]
    exact never
  · rw [failure?_note_of_ne record offset same] at recorded
    exact sound quote recorded

/-- A sound record answers like a search, and stays sound. -/
theorem SoundFor.stringLength? {record : QuoteRecord} {text : Text}
    (sound : record.SoundFor text) {quote : Quote} (opened : text.head? = some quote.mark)
    (offset : Nat) :
    (record.stringLength? quote offset text).1 = quote.stringLength? text ∧
      (record.stringLength? quote offset text).2.SoundFor text := by
  rcases record.stringLength?_cases quote offset text with
    ⟨first, recorded, _, answered⟩ | ⟨_, ⟨length, found, answered⟩ | ⟨failed, answered⟩⟩
  · have never := sound quote (by simp [recorded])
    rw [answered, never.here]
    exact ⟨rfl, sound⟩
  · rw [answered, found]
    exact ⟨rfl, sound⟩
  · rw [answered, failed]
    exact ⟨rfl, sound.note (Quote.neverCloses_of_stringLength?_eq_none opened failed) offset⟩

variable {record : QuoteRecord} {c : Char} {rest : Text}

/-- With a sound record every rule takes what it takes with none, and leaves it sound. -/
theorem SoundFor.extent (sound : record.SoundFor (c :: rest)) (dialect : Dialect)
    (offset : Nat) (rule : ScanRule) :
    (rule.extent dialect record offset c rest).1 = rule.freshExtent dialect c rest ∧
      (rule.extent dialect record offset c rest).2.SoundFor (c :: rest) := by
  cases rule with
  | string =>
      change (ScanRule.stringLength record offset c rest).1 =
          (ScanRule.stringLength empty 0 c rest).1 ∧
        (ScanRule.stringLength record offset c rest).2.SoundFor (c :: rest)
      cases opening : Quote.ofChar? c with
      | none =>
          unfold ScanRule.stringLength
          rw [opening]
          exact ⟨rfl, sound⟩
      | some quote =>
          have opened : (c :: rest).head? = some quote.mark := by
            rw [Quote.ofChar?_eq_some_iff.mp opening, List.head?_cons]
          obtain ⟨same, stillSound⟩ := sound.stringLength? opened offset
          rw [ScanRule.stringLength_eq opening, ScanRule.stringLength_eq opening,
            fst_stringLength?_empty, same]
          exact ⟨rfl, stillSound⟩
  | comment | keyword | type | number | functionCall | identifier | punctuation | whitespace =>
      exact ⟨rfl, sound⟩

end QuoteRecord

namespace Code

variable {record : QuoteRecord} {c : Char} {rest : Text}

/-- With a sound record the first rule that applies is the one with none, and the record
stays sound. -/
theorem firstSlice_of_soundFor (sound : record.SoundFor (c :: rest)) (dialect : Dialect)
    (offset : Nat) (order : List ScanRule) :
    let slice := firstSlice dialect record offset c rest order
    freshSlice dialect c rest order = (slice.cls, slice.further) ∧
      slice.record.SoundFor (c :: rest) := by
  induction order generalizing record with
  | nil => exact ⟨rfl, sound⟩
  | cons rule later inductionHypothesis =>
      obtain ⟨same, stillSound⟩ := sound.extent dialect offset rule
      unfold firstSlice freshSlice
      rw [← same]
      generalize rule.extent dialect record offset c rest = taken at stillSound ⊢
      obtain ⟨length, after⟩ := taken
      cases length with
      | zero => exact inductionHypothesis stillSound
      | succ further => exact ⟨rfl, stillSound⟩

/-- With a sound record the pieces are those of the scan that searches again. -/
theorem piecesFrom_of_soundFor (dialect : Dialect) (order : List ScanRule)
    {record : QuoteRecord} {text : Text} (sound : record.SoundFor text) (offset : Nat) :
    piecesFrom dialect order record offset text = freshPieces dialect order text := by
  fun_induction piecesFrom dialect order record offset text with
  | case1 => rw [freshPieces]
  | case2 record offset c rest slice inductionHypothesis =>
      obtain ⟨same, stillSound⟩ := firstSlice_of_soundFor sound dialect offset order
      rw [freshPieces, same, inductionHypothesis (stillSound.drop (slice.further + 1))]

/-- The scan makes the pieces of the scan that searches again. -/
theorem pieces_eq_freshPieces (dialect : Dialect) (order : List ScanRule) (text : Text) :
    pieces dialect order text = freshPieces dialect order text :=
  piecesFrom_of_soundFor dialect order (QuoteRecord.soundFor_empty text) 0

theorem tokens_eq_freshTokens (dialect : Dialect) (order : List ScanRule) (text : Text) :
    tokens dialect order text = freshTokens dialect order text := by
  rw [tokens, freshTokens, pieces_eq_freshPieces]

end Code

/-- The record of unclosed quotes cannot be seen.  Questions at quotes, in any order, are
answered as if nothing were on record; after them the record holds for each quote the
least offset that failed, from which on no string of the quote closes.  And the scan for
programming languages makes the tokens of the scan that searches again for every quote. -/
theorem unclosed_quotes_unobservable :
    (∀ (source : Text) (questions : List QuoteQuestion),
      (∀ question ∈ questions, question.Opens source) →
        (QuoteQuestion.answers source .empty questions).1 =
            questions.map (QuoteQuestion.freshAnswer source) ∧
          ∀ quote,
            (QuoteQuestion.answers source .empty questions).2.failure? quote =
                (QuoteQuestion.failures source quote questions).min? ∧
              ∀ first,
                (QuoteQuestion.answers source .empty questions).2.failure? quote = some first →
                  quote.NeverCloses (source.drop first)) ∧
      ∀ (dialect : Dialect) (order : List ScanRule) (text : Text),
        Code.tokens dialect order text = Code.freshTokens dialect order text := by
  refine ⟨?_, Code.tokens_eq_freshTokens⟩
  intro source questions opening
  obtain ⟨answered, summed⟩ := (QuoteRecord.sumsUp_empty source).answers questions opening
  exact ⟨answered, fun quote =>
    ⟨summed quote, fun first recorded => summed.neverCloses opening recorded⟩⟩

/-- In `"a\"'b'` the double quotes do not close, asked for from the later to the earlier,
and the single quotes between do. -/
theorem unclosed_quotes_unobservable_escaped :
    let source := ['\x22', 'a', '\\', '\x22', '\x27', 'b', '\x27']
    let questions : List QuoteQuestion := [⟨.double, 3⟩, ⟨.single, 4⟩, ⟨.double, 0⟩, ⟨.double, 3⟩]
    (∀ question ∈ questions, question.Opens source) ∧
      (QuoteQuestion.answers source .empty questions).1 = [none, some 7, none, none] ∧
        (QuoteQuestion.answers source .empty questions).2.failure? .double = some 0 := by
  intro source questions
  have opening : ∀ question ∈ questions, question.Opens source := by
    simp [questions, source, QuoteQuestion.Opens, Quote.mark]
  obtain ⟨answered, summed⟩ := unclosed_quotes_unobservable.1 source questions opening
  refine ⟨opening, ?_, ?_⟩
  · rw [answered]
    rfl
  · rw [(summed .double).1]
    rfl

end Highlighter
