import Highlighter.Proofs.Extent

/-!
# The grammar of numerals

A numeral is a run of digits, perhaps a point with more digits, and perhaps an exponent: a
letter, an optional sign and digits.  The scans measure these parts one after the other and
take each as long as it goes on.  What they take is the longest start of the text that is a
numeral at all, since a part that could be longer would make the numeral longer, and a point
or a letter can only stand where the part before it has ended.
-/

namespace Highlighter.Numeral

/-! ## The grammar -/

/-- Decimal digits, at least one. -/
structure IsDigits (text : Text) : Prop where
  filled : text ≠ []
  isDigit : ∀ c ∈ text, c.isDigit = true

/-- A point with digits behind it, or nothing. -/
inductive IsFraction : Text → Prop where
  | absent : IsFraction []
  | point {digits : Text} (counted : IsDigits digits) : IsFraction ('.' :: digits)

/-- The sign of an exponent, which may be left out. -/
inductive IsSign : Text → Prop where
  | absent : IsSign []
  | plus : IsSign ['+']
  | minus : IsSign ['-']

/-- A letter with a signed run of digits behind it, or nothing. -/
inductive IsExponent : Text → Prop where
  | absent : IsExponent []
  | power {letter : Char} {sign digits : Text} (named : letter = 'e' ∨ letter = 'E')
      (signed : IsSign sign) (counted : IsDigits digits) : IsExponent (letter :: (sign ++ digits))

/-- Digits, a fraction and an exponent, of which only the digits must be there. -/
inductive IsNumeral : Text → Prop where
  | parts {whole fraction exponent : Text} (counted : IsDigits whole)
      (pointed : IsFraction fraction) (raised : IsExponent exponent) :
      IsNumeral (whole ++ (fraction ++ exponent))

/-- A numeral is the longest start of a text that is one. -/
structure Longest (text numeral : Text) : Prop where
  isNumeral : IsNumeral numeral
  starts : numeral <+: text
  longest : ∀ other, IsNumeral other → other <+: text → other.length ≤ numeral.length

theorem IsNumeral.ne_nil {text : Text} (numeral : IsNumeral text) : text ≠ [] := by
  cases numeral with
  | parts counted _ _ =>
      intro vanished
      exact counted.filled (List.append_eq_nil_iff.mp vanished).1

/-- The characters that numerals are written with besides digits: the point, the letters of
exponents and their signs. -/
def marks : List Char :=
  ['.', 'e', 'E', '+', '-']

/-- A numeral is written with digits and marks. -/
theorem IsNumeral.mem {text : Text} (numeral : IsNumeral text) :
    ∀ c ∈ text, c.isDigit = true ∨ c ∈ marks := by
  intro c member
  cases numeral with
  | parts counted pointed raised =>
      rcases List.mem_append.mp member with inWhole | behind
      · exact Or.inl (counted.isDigit c inWhole)
      · rcases List.mem_append.mp behind with inFraction | inExponent
        · cases pointed with
          | absent => contradiction
          | point digits =>
              rcases List.mem_cons.mp inFraction with rfl | inside
              · right
                decide
              · exact Or.inl (digits.isDigit c inside)
        · cases raised with
          | absent => contradiction
          | power named signed digits =>
              rcases List.mem_cons.mp inExponent with rfl | inside
              · right
                rcases named with rfl | rfl <;> decide
              · rcases List.mem_append.mp inside with inSign | inDigits
                · right
                  cases signed with
                  | absent => contradiction
                  | plus | minus =>
                      rw [List.mem_singleton.mp inSign]
                      decide
                · exact Or.inl (digits.isDigit c inDigits)

/-! ## What is measured is a numeral -/

/-- Digits are counted to the end of their run. -/
theorem isDigits_take {text : Text} (present : digitCount text ≠ 0) :
    IsDigits (text.take (digitCount text)) := by
  rw [digitCount, Text.take_countWhile]
  constructor
  · intro vanished
    apply present
    rw [digitCount, Text.countWhile, vanished]
    rfl
  · intro c member
    exact List.all_eq_true.mp List.all_takeWhile c member

theorem isFraction_take (text : Text) : IsFraction (text.take (fractionLength text)) := by
  cases text with
  | nil => exact .absent
  | cons c rest =>
      simp only [fractionLength]
      split
      · rename_i pointed
        split
        · exact .absent
        · rename_i digits counted
          have isDigits : IsDigits (rest.take (digitCount rest)) :=
            isDigits_take (by rw [counted]; exact Nat.succ_ne_zero digits)
          rw [counted] at isDigits
          rw [List.take_succ_cons, pointed]
          exact .point isDigits
      · exact .absent

/-- A signed run of digits is a sign and digits. -/
theorem exists_sign_of_signedLength {text : Text} (present : signedLength text ≠ 0) :
    ∃ sign digits, IsSign sign ∧ IsDigits digits ∧
      text.take (signedLength text) = sign ++ digits := by
  cases text with
  | nil => contradiction
  | cons c rest =>
      simp only [signedLength] at present ⊢
      split at present
      · rename_i signed
        rw [if_pos signed]
        split at present
        · contradiction
        · rename_i digits counted
          have isDigits : IsDigits (rest.take (digitCount rest)) :=
            isDigits_take (by rw [counted]; exact Nat.succ_ne_zero digits)
          rw [counted] at isDigits
          rw [List.take_succ_cons]
          rcases Bool.or_eq_true_iff.mp signed with plus | minus
          · rw [of_decide_eq_true plus]
            exact ⟨['+'], _, .plus, isDigits, rfl⟩
          · rw [of_decide_eq_true minus]
            exact ⟨['-'], _, .minus, isDigits, rfl⟩
      · rename_i unsigned
        rw [if_neg unsigned]
        exact ⟨[], _, .absent, isDigits_take present, rfl⟩

theorem isExponent_take (text : Text) : IsExponent (text.take (exponentLength text)) := by
  cases text with
  | nil => exact .absent
  | cons c rest =>
      simp only [exponentLength]
      split
      · rename_i lettered
        split
        · exact .absent
        · rename_i length measured
          have present : signedLength rest ≠ 0 := by
            rw [measured]
            exact Nat.succ_ne_zero length
          obtain ⟨sign, digits, signed, counted, taken⟩ := exists_sign_of_signedLength present
          rw [measured] at taken
          rw [List.take_succ_cons, taken]
          exact .power (by simpa using lettered) signed counted
      · exact .absent

theorem length_of_ne_zero {text : Text} (present : digitCount text ≠ 0) :
    length text =
      digitCount text + fractionLength (text.drop (digitCount text)) +
        exponentLength
          (text.drop (digitCount text + fractionLength (text.drop (digitCount text)))) := by
  unfold length
  split
  · contradiction
  · rfl

theorem isNumeral_take {text : Text} (present : length text ≠ 0) :
    IsNumeral (text.take (length text)) := by
  unfold length at present ⊢
  split at present
  · contradiction
  · rename_i counted
    simp only [List.take_add]
    rw [List.append_assoc, ← List.drop_drop]
    exact .parts (isDigits_take counted) (isFraction_take _) (isExponent_take _)

/-! ## No longer start is a numeral -/

theorem digitCount_append_le {digits : Text} (counted : IsDigits digits) (rest : Text) :
    digits.length ≤ digitCount (digits ++ rest) := by
  rw [digitCount, Text.countWhile, List.takeWhile_append_of_pos counted.isDigit,
    List.length_append]
  exact Nat.le_add_right _ _

theorem digitCount_append {digits rest : Text} (counted : IsDigits digits)
    (ended : ∀ c ∈ rest.head?, c.isDigit = false) :
    digitCount (digits ++ rest) = digits.length :=
  Text.countWhile_append counted.isDigit ended

/-- Digits have a positive length. -/
theorem IsDigits.exists_length {digits : Text} (counted : IsDigits digits) :
    ∃ further, digits.length = further + 1 :=
  Nat.exists_eq_add_one.mpr (List.length_pos_iff.mpr counted.filled)

theorem fractionLength_append_le {fraction : Text} (pointed : IsFraction fraction)
    (rest : Text) : fraction.length ≤ fractionLength (fraction ++ rest) := by
  cases pointed with
  | absent => exact Nat.zero_le _
  | @point digits counted =>
      have digits_le := digitCount_append_le counted rest
      obtain ⟨further, filled⟩ := counted.exists_length
      simp only [List.cons_append, fractionLength, if_true, List.length_cons]
      split <;> omega

/-- A fraction is measured in full where no digit and no point follows. -/
theorem fractionLength_append {fraction rest : Text} (pointed : IsFraction fraction)
    (ended : ∀ c ∈ rest.head?, c.isDigit = false ∧ c ≠ '.') :
    fractionLength (fraction ++ rest) = fraction.length := by
  cases pointed with
  | absent =>
      cases rest with
      | nil => rfl
      | cons c later => exact if_neg (ended c rfl).2
  | @point digits counted =>
      have measured := digitCount_append counted fun c first => (ended c first).1
      obtain ⟨further, filled⟩ := counted.exists_length
      rw [filled] at measured
      simp only [List.cons_append, fractionLength, if_true, measured, List.length_cons, filled]

theorem signedLength_append_le {sign digits : Text} (signed : IsSign sign)
    (counted : IsDigits digits) (rest : Text) :
    (sign ++ digits).length ≤ signedLength (sign ++ digits ++ rest) := by
  have digits_le := digitCount_append_le counted rest
  obtain ⟨further, filled⟩ := counted.exists_length
  cases signed with
  | absent =>
      cases digits with
      | nil => contradiction
      | cons digit later =>
          have isDigit : digit.isDigit = true := counted.isDigit digit List.mem_cons_self
          have unsigned : ¬(decide (digit = '+') || decide (digit = '-')) = true := by
            intro signed
            rcases Bool.or_eq_true_iff.mp signed with plus | minus
            · rw [of_decide_eq_true plus] at isDigit
              contradiction
            · rw [of_decide_eq_true minus] at isDigit
              contradiction
          simp only [List.nil_append, List.cons_append, signedLength, if_neg unsigned]
          exact digits_le
  | plus | minus =>
      simp only [List.cons_append, List.nil_append, signedLength, decide_true, Bool.true_or,
        Bool.or_true, if_true, List.length_cons]
      split <;> omega

theorem exponentLength_append_le {exponent : Text} (raised : IsExponent exponent)
    (rest : Text) : exponent.length ≤ exponentLength (exponent ++ rest) := by
  cases raised with
  | absent => exact Nat.zero_le _
  | @power letter sign digits named signed counted =>
      have signed_le := signedLength_append_le signed counted rest
      obtain ⟨further, filled⟩ := counted.exists_length
      have lettered : (decide (letter = 'e') || decide (letter = 'E')) = true := by
        simpa using named
      rw [List.length_append] at signed_le
      simp only [List.cons_append, exponentLength, lettered, if_true, List.length_cons,
        List.length_append]
      split <;> omega

/-- A fraction starts with a point, and with nothing that could belong to a digit run. -/
theorem IsFraction.head {fraction : Text} (pointed : IsFraction fraction)
    (filled : fraction ≠ []) (rest : Text) :
    ∀ c ∈ (fraction ++ rest).head?, c.isDigit = false := by
  cases pointed with
  | absent => contradiction
  | point =>
      rintro c ⟨⟩
      rfl

/-- An exponent starts with its letter. -/
theorem IsExponent.head {exponent : Text} (raised : IsExponent exponent)
    (filled : exponent ≠ []) (rest : Text) :
    ∀ c ∈ (exponent ++ rest).head?, c.isDigit = false ∧ c ≠ '.' := by
  cases raised with
  | absent => contradiction
  | power named =>
      rintro c ⟨⟩
      rcases named with rfl | rfl <;> decide

/-- A numeral at the start of a text is at most as long as what is measured there. -/
theorem IsNumeral.length_le {numeral : Text} (isNumeral : IsNumeral numeral) (rest : Text) :
    numeral.length ≤ length (numeral ++ rest) := by
  cases isNumeral with
  | @parts whole fraction exponent counted pointed raised =>
      have whole_le := digitCount_append_le counted (fraction ++ (exponent ++ rest))
      obtain ⟨further, filled⟩ := counted.exists_length
      have present : digitCount (whole ++ (fraction ++ (exponent ++ rest))) ≠ 0 := by omega
      simp only [List.append_assoc, length_of_ne_zero present, List.length_append]
      -- a part is measured exactly where another one follows; only the last can be longer
      by_cases noExponent : exponent = []
      · subst noExponent
        by_cases noFraction : fraction = []
        · subst noFraction
          rw [List.length_nil, Nat.add_assoc]
          exact Nat.le_trans whole_le (Nat.le_add_right _ _)
        · rw [digitCount_append counted (pointed.head noFraction _), List.drop_left]
          have fraction_le := fractionLength_append_le pointed ([] ++ rest)
          rw [List.length_nil]
          omega
      · have behind := raised.head noExponent rest
        have ended : ∀ c ∈ (fraction ++ (exponent ++ rest)).head?, c.isDigit = false := by
          by_cases noFraction : fraction = []
          · rw [noFraction]
            exact fun c first => (behind c first).1
          · exact pointed.head noFraction _
        rw [digitCount_append counted ended, List.drop_left,
          fractionLength_append pointed behind, List.drop_length_add_append, List.drop_left]
        have exponent_le := exponentLength_append_le raised rest
        omega

/-- A numeral is measured in full where nothing follows that numerals are written with. -/
theorem IsNumeral.length_append {numeral rest : Text} (isNumeral : IsNumeral numeral)
    (ended : ∀ c ∈ rest.head?, c.isDigit = false ∧ c ∉ marks) :
    length (numeral ++ rest) = numeral.length := by
  apply Nat.le_antisymm _ (isNumeral.length_le rest)
  cases rest with
  | nil =>
      rw [List.append_nil]
      exact Numeral.length_le numeral
  | cons c later =>
      apply Nat.le_of_not_lt
      intro longer
      obtain ⟨further, extent⟩ := Nat.exists_eq_add_of_lt longer
      have present : length (numeral ++ c :: later) ≠ 0 := by
        rw [extent]
        exact Nat.succ_ne_zero _
      have taken := isNumeral_take present
      rw [extent, Nat.add_assoc, List.take_length_add_append, List.take_succ_cons] at taken
      obtain ⟨other, unlike⟩ := ended c rfl
      rcases taken.mem c (List.mem_append_right _ List.mem_cons_self) with digit | sign
      · rw [other] at digit
        contradiction
      · exact unlike sign

/-- What is measured at the start of a text is the longest numeral there. -/
theorem longest_take {text : Text} (present : length text ≠ 0) :
    Longest text (text.take (length text)) where
  isNumeral := isNumeral_take present
  starts := List.take_prefix _ _
  longest := by
    rintro other isNumeral ⟨rest, rfl⟩
    rw [List.length_take, Nat.min_eq_left (length_le _)]
    exact isNumeral.length_le rest

/-- The longest numeral at the start of a text is what is measured there. -/
theorem Longest.eq_take {text numeral : Text} (longest : Longest text numeral) :
    length text ≠ 0 ∧ numeral = text.take (length text) := by
  obtain ⟨rest, split⟩ := longest.starts
  have measured_le := longest.isNumeral.length_le rest
  rw [split] at measured_le
  have positive := List.length_pos_iff.mpr longest.isNumeral.ne_nil
  have present : length text ≠ 0 := by omega
  have taken_le := longest.longest _ (isNumeral_take present) (List.take_prefix _ _)
  rw [List.length_take, Nat.min_eq_left (length_le text)] at taken_le
  refine ⟨present, ?_⟩
  rw [List.prefix_iff_eq_take.mp longest.starts, Nat.le_antisymm measured_le taken_le]

theorem IsDigits.concat {digits : Text} (counted : IsDigits digits) {c : Char}
    (digit : c.isDigit = true) : IsDigits (digits ++ [c]) := by
  constructor
  · exact List.append_ne_nil_of_right_ne_nil digits (List.cons_ne_nil c [])
  · intro d member
    rcases List.mem_append.mp member with inside | last
    · exact counted.isDigit d inside
    · rw [List.mem_singleton.mp last]
      exact digit

/-- A numeral stays one with one more digit. -/
theorem IsNumeral.concat {numeral : Text} (isNumeral : IsNumeral numeral) {c : Char}
    (digit : c.isDigit = true) : IsNumeral (numeral ++ [c]) := by
  cases isNumeral with
  | parts counted pointed raised =>
      cases raised with
      | power named signed digits =>
          have raised := IsExponent.power named signed (digits.concat digit)
          simpa using IsNumeral.parts counted pointed raised
      | absent =>
          cases pointed with
          | point digits =>
              have pointed := IsFraction.point (digits.concat digit)
              simpa using IsNumeral.parts counted pointed .absent
          | absent =>
              simpa using IsNumeral.parts (counted.concat digit) .absent .absent

/-- No digit follows the longest numeral. -/
theorem Longest.isDigit_eq_false {text numeral : Text} (longest : Longest text numeral) :
    ∀ c ∈ (text.drop numeral.length).head?, c.isDigit = false := by
  intro c first
  cases digit : c.isDigit with
  | false => rfl
  | true =>
      obtain ⟨rest, split⟩ := longest.starts
      rw [← split, List.drop_left] at first
      obtain ⟨later, rfl⟩ := List.head?_eq_some_iff.mp first
      have starts : numeral ++ [c] <+: text := by
        exact ⟨later, by rw [← split, ← List.append_cons]⟩
      have longer := longest.longest _ (longest.isNumeral.concat digit) starts
      rw [List.length_append, List.length_singleton] at longer
      omega

/-! ## Numerals that no word goes on from -/

/-- The longest numeral at the start of a text, with no word character behind it. -/
structure Separate (text numeral : Text) : Prop extends Longest text numeral where
  ended : ∀ c ∈ (text.drop numeral.length).head?, isWordChar c = false

/-- The rule for numbers takes a numeral that no word goes on from. -/
theorem separate_take {text : Text} (numbered : ScanRule.numberLength text ≠ 0) :
    Separate text (text.take (ScanRule.numberLength text)) := by
  simp only [ScanRule.numberLength] at numbered ⊢
  split at numbered
  · contradiction
  · rename_i separate
    rw [if_neg separate]
    constructor
    · exact longest_take numbered
    · intro c first
      rw [List.length_take, Nat.min_eq_left (length_le text)] at first
      rw [first] at separate
      simpa using separate

/-- Where the rule for numbers does not apply, a word goes on from every numeral. -/
theorem not_separate_of_numberLength {text : Text}
    (unnumbered : ScanRule.numberLength text = 0) (numeral : Text) : ¬Separate text numeral := by
  intro separate
  obtain ⟨present, taken⟩ := separate.toLongest.eq_take
  have ended := separate.ended
  rw [taken, List.length_take, Nat.min_eq_left (length_le text)] at ended
  simp only [ScanRule.numberLength] at unnumbered
  split at unnumbered
  · rename_i followed
    obtain ⟨c, first, word⟩ := (Option.any_eq_true _ _).mp followed
    rw [ended c first] at word
    contradiction
  · exact present unnumbered

end Highlighter.Numeral
