import Highlighter.Scan.Code

/-!
# No rule takes more than is left

Every search of the scan for programming languages stays inside the text that it is
given: the length it answers is at most the length of that text.  From the searches the
bound passes to the nine rules and to the slice that the scan cuts off.
-/

namespace Highlighter

theorem isWordChar_of_isDigit {c : Char} (digit : c.isDigit = true) : isWordChar c = true := by
  simp [isWordChar, Char.isAlphanum, digit]

theorem isDigit_eq_false {c : Char} (other : isWordChar c = false) : c.isDigit = false := by
  cases digit : c.isDigit with
  | false => rfl
  | true => rw [isWordChar_of_isDigit digit] at other; contradiction

theorem isWordChar_eq_false_of_isAsciiBlank {c : Char} (blank : isAsciiBlank c = true) :
    isWordChar c = false := by
  simp only [isAsciiBlank, Bool.or_eq_true, beq_iff_eq] at blank
  rcases blank with ((((rfl | rfl) | rfl) | rfl) | rfl) | rfl <;> decide

namespace Text

theorem countWhile_le (belongs : Char → Bool) (text : Text) :
    text.countWhile belongs ≤ text.length :=
  (List.takeWhile_prefix belongs).length_le

theorem countWhile_cons_ne_zero {belongs : Char → Bool} {c : Char} (inside : belongs c = true)
    (rest : Text) : countWhile belongs (c :: rest) ≠ 0 := by
  rw [countWhile, List.takeWhile_cons, if_pos inside]
  exact Nat.succ_ne_zero _

theorem countWhile_cons_eq_zero {belongs : Char → Bool} {c : Char} (outside : belongs c = false)
    (rest : Text) : countWhile belongs (c :: rest) = 0 := by
  rw [countWhile, List.takeWhile_cons, outside]
  rfl

/-- A text is cut behind a counted run into the run and what is left without it. -/
theorem take_countWhile (belongs : Char → Bool) (text : Text) :
    text.take (text.countWhile belongs) = text.takeWhile belongs :=
  (List.prefix_iff_eq_take.mp (List.takeWhile_prefix belongs)).symm

theorem drop_countWhile (belongs : Char → Bool) (text : Text) :
    text.drop (text.countWhile belongs) = text.dropWhile belongs := by
  have parts := (List.take_append_drop (text.countWhile belongs) text).trans
    (List.takeWhile_append_dropWhile (p := belongs)).symm
  rw [take_countWhile] at parts
  exact List.append_cancel_left parts

/-- Behind a counted run stands no character of the class. -/
theorem not_belongs_of_head?_dropWhile {belongs : Char → Bool} {text : Text} :
    ∀ c ∈ (text.dropWhile belongs).head?, belongs c = false := by
  intro c first
  have stopped := List.head?_dropWhile_not belongs text
  rw [first] at stopped
  exact stopped

/-- A run of characters of a class is counted up to a character that is not in it. -/
theorem countWhile_append {belongs : Char → Bool} {run rest : Text}
    (inside : ∀ c ∈ run, belongs c = true) (ended : ∀ c ∈ rest.head?, belongs c = false) :
    countWhile belongs (run ++ rest) = run.length := by
  have stopped : rest.takeWhile belongs = [] := by
    cases rest with
    | nil => rfl
    | cons c later =>
        rw [List.takeWhile_cons, if_neg (by rw [ended c rfl]; exact Bool.false_ne_true)]
  rw [countWhile, List.takeWhile_append_of_pos inside, stopped, List.append_nil]

theorem lengthThrough?_le {part text : Text} {length : Nat}
    (found : lengthThrough? part text = some length) : length ≤ text.length := by
  induction text generalizing length with
  | nil =>
      unfold lengthThrough? at found
      split at found
      · exact Nat.le_of_eq (Option.some.inj found).symm
      · contradiction
  | cons c rest inductionHypothesis =>
      unfold lengthThrough? at found
      split at found
      · rename_i here
        rw [← Option.some.inj found]
        exact (List.isPrefixOf_iff_prefix.mp here).length_le
      · obtain ⟨later, laterFound, rfl⟩ := Option.map_eq_some_iff.mp found
        exact Nat.succ_le_succ (inductionHypothesis laterFound)

end Text

namespace Numeral

theorem digitCount_le (text : Text) : digitCount text ≤ text.length :=
  text.countWhile_le Char.isDigit

theorem fractionLength_le (text : Text) : fractionLength text ≤ text.length := by
  cases text with
  | nil => exact Nat.le_refl 0
  | cons c rest =>
      have digits_le := digitCount_le rest
      simp only [fractionLength, List.length_cons]
      split
      · split <;> omega
      · omega

theorem signedLength_le (text : Text) : signedLength text ≤ text.length := by
  cases text with
  | nil => exact Nat.le_refl 0
  | cons c rest =>
      have digits_le := digitCount_le rest
      simp only [signedLength]
      split
      · rw [List.length_cons]
        split <;> omega
      · exact digitCount_le (c :: rest)

theorem exponentLength_le (text : Text) : exponentLength text ≤ text.length := by
  cases text with
  | nil => exact Nat.le_refl 0
  | cons c rest =>
      have signed_le := signedLength_le rest
      simp only [exponentLength, List.length_cons]
      split
      · split <;> omega
      · omega

/-- No numeral starts without a digit. -/
theorem length_cons_eq_zero {c : Char} (other : c.isDigit = false) (rest : Text) :
    length (c :: rest) = 0 := by
  have uncounted : digitCount (c :: rest) = 0 := Text.countWhile_cons_eq_zero other rest
  simp only [length, uncounted]

theorem length_le (text : Text) : length text ≤ text.length := by
  have whole_le := digitCount_le text
  unfold length
  split
  · exact Nat.zero_le _
  · have fraction_le := fractionLength_le (text.drop (digitCount text))
    have exponent_le := exponentLength_le
      (text.drop (digitCount text + fractionLength (text.drop (digitCount text))))
    simp only [List.length_drop] at fraction_le exponent_le ⊢
    omega

end Numeral

namespace Quote

variable {quote : Quote} {text : Text} {length : Nat}

theorem closingLength?_le (found : quote.closingLength? text = some length) :
    length ≤ text.length := by
  fun_induction closingLength? quote text generalizing length with
  | case1 => contradiction
  | case2 | case4 =>
      rw [← Option.some.inj found]
      exact Nat.le_add_left _ _
  | case3 => contradiction
  | case5 d rest _ inductionHypothesis =>
      obtain ⟨later, laterFound, rfl⟩ := Option.map_eq_some_iff.mp found
      exact Nat.add_le_add_right (inductionHypothesis laterFound) 2
  | case6 c d rest _ _ inductionHypothesis =>
      obtain ⟨later, laterFound, rfl⟩ := Option.map_eq_some_iff.mp found
      exact Nat.succ_le_succ (inductionHypothesis laterFound)

/-- A string is its quote and what the search after it takes. -/
theorem closingLength?_of_stringLength?_eq_some (found : quote.stringLength? text = some length) :
    ∃ rest closing, text = quote.mark :: rest ∧ quote.closingLength? rest = some closing ∧
      length = closing + 1 := by
  cases text with
  | nil => contradiction
  | cons c rest =>
      simp only [stringLength?] at found
      split at found
      · rename_i opening
        obtain ⟨closing, closingFound, rfl⟩ := Option.map_eq_some_iff.mp found
        exact ⟨rest, closing, by rw [opening], closingFound, rfl⟩
      · contradiction

theorem stringLength?_le (found : quote.stringLength? text = some length) :
    length ≤ text.length := by
  obtain ⟨rest, closing, rfl, closingFound, rfl⟩ :=
    closingLength?_of_stringLength?_eq_some found
  exact Nat.succ_le_succ (closingLength?_le closingFound)

theorem stringLength?_pos (found : quote.stringLength? text = some length) : 0 < length := by
  obtain ⟨rest, closing, rfl, _, rfl⟩ := closingLength?_of_stringLength?_eq_some found
  exact Nat.zero_lt_succ closing

theorem openLength_le (quote : Quote) (rest : Text) :
    quote.openLength rest ≤ rest.length + 1 := by
  have line_le : rest.lineLength ≤ rest.length := rest.countWhile_le (· != '\n')
  cases quote <;> simp only [openLength] <;> omega

end Quote

/-- A record answers with a length only after a search. -/
theorem QuoteRecord.stringLength?_eq_some {record : QuoteRecord} {quote : Quote} {offset : Nat}
    {text : Text} {length : Nat}
    (answered : (record.stringLength? quote offset text).1 = some length) :
    quote.stringLength? text = some length := by
  unfold QuoteRecord.stringLength? at answered
  split at answered
  · contradiction
  · split at answered
    · rename_i found
      rw [found]
      exact answered
    · contradiction

namespace ScanRule

theorem wordLengthIf_le (belongs : Text → Bool) (text : Text) :
    wordLengthIf belongs text ≤ text.length := by
  unfold wordLengthIf
  split
  · exact text.countWhile_le isWordChar
  · exact Nat.zero_le _

theorem commentLength_le (comments : CommentStyle) (text : Text) :
    commentLength comments text ≤ text.length := by
  unfold commentLength
  split
  · exact text.countWhile_le (· != '\n')
  · split
    · rename_i block
      have opened : 2 ≤ text.length :=
        (List.isPrefixOf_iff_prefix.mp (Bool.and_eq_true_iff.mp block).2).length_le
      split
      · rename_i length found
        have length_le := Text.lengthThrough?_le found
        rw [List.length_drop] at length_le
        omega
      · exact Nat.le_refl _
    · exact Nat.zero_le _

theorem numberLength_le (text : Text) : numberLength text ≤ text.length := by
  simp only [numberLength]
  split
  · exact Nat.zero_le _
  · exact Numeral.length_le text

theorem callLength_le (text : Text) : callLength text ≤ text.length := by
  unfold callLength
  split
  · exact text.countWhile_le isWordChar
  · exact Nat.zero_le _

theorem stringLength_le (record : QuoteRecord) (offset : Nat) (c : Char) (rest : Text) :
    (stringLength record offset c rest).1 ≤ rest.length + 1 := by
  unfold stringLength
  split
  · exact Nat.zero_le _
  · rename_i quote _
    split
    · rename_i length after answered
      have found := QuoteRecord.stringLength?_eq_some (congrArg Prod.fst answered)
      exact Quote.stringLength?_le found
    · exact quote.openLength_le rest

/-- A rule takes at most what is left of the text. -/
theorem extent_le (dialect : Dialect) (record : QuoteRecord) (offset : Nat) (c : Char)
    (rest : Text) (rule : ScanRule) :
    (rule.extent dialect record offset c rest).1 ≤ rest.length + 1 := by
  cases rule with
  | string => exact stringLength_le record offset c rest
  | comment => exact commentLength_le dialect.comments (c :: rest)
  | keyword | type => exact wordLengthIf_le _ (c :: rest)
  | number => exact numberLength_le (c :: rest)
  | functionCall => exact callLength_le (c :: rest)
  | identifier => exact Text.countWhile_le isWordChar (c :: rest)
  | punctuation =>
      simp only [extent]
      split <;> omega
  | whitespace => exact Text.countWhile_le isAsciiBlank (c :: rest)

end ScanRule

/-- The slice that is cut off lies inside the text. -/
theorem Code.further_firstSlice_le (dialect : Dialect) (record : QuoteRecord) (offset : Nat)
    (c : Char) (rest : Text) (order : List ScanRule) :
    (firstSlice dialect record offset c rest order).further ≤ rest.length := by
  induction order generalizing record with
  | nil => exact Nat.zero_le _
  | cons rule later inductionHypothesis =>
      have taken_le := rule.extent_le dialect record offset c rest
      unfold firstSlice
      split
      · exact inductionHypothesis _
      · rename_i further after answered
        rw [answered] at taken_le
        exact Nat.le_of_succ_le_succ taken_le

end Highlighter
