import Highlighter.Proofs.Extent
import Highlighter.Scan.Json

/-!
# The lexemes of JSON at one place

What the scan for JSON can find at the start of a text: a string, a number, a word, a
mark of punctuation or a run of blanks, in this order.  Whatever it finds is not empty
and lies inside the text.  Strings matter only where one starts, so a scan that no
longer looks for them misses nothing where none does.
-/

namespace Highlighter.Json

theorem numberLength_le (text : Text) : numberLength text ≤ text.length := by
  cases text with
  | nil => exact Nat.le_refl 0
  | cons c rest =>
      have unsigned_le := Numeral.length_le rest
      simp only [numberLength]
      split
      · rw [List.length_cons]
        split <;> omega
      · exact Numeral.length_le (c :: rest)

theorem wordLength_le (text : Text) : wordLength text ≤ text.length := by
  unfold wordLength
  split
  · exact Nat.zero_le _
  · rename_i word found
    split
    · exact Nat.zero_le _
    · have here := List.find?_some found
      exact (List.isPrefixOf_iff_prefix.mp here).length_le

/-- A word of JSON is taken only where no word character follows. -/
theorem exists_word_of_wordLength {text : Text} (present : 0 < wordLength text) :
    ∃ word after, word ∈ words ∧ text = word ++ after ∧ wordLength text = word.length ∧
      ∀ c ∈ after.head?, isWordChar c = false := by
  unfold wordLength at present ⊢
  cases found : words.find? (·.isPrefixOf text) with
  | none =>
      rw [found] at present
      contradiction
  | some word =>
      have here := List.find?_some found
      obtain ⟨after, rfl⟩ := List.isPrefixOf_iff_prefix.mp here
      simp only [found, List.drop_left] at present ⊢
      split at present
      · contradiction
      · rename_i ended
        refine ⟨word, after, List.mem_of_find?_eq_some found, rfl, if_neg ended, ?_⟩
        intro c first
        rw [first] at ended
        simpa using ended

/-- What a lexeme at the start of a text can be. -/
theorem lexeme?_cases {closable afterWord : Bool} {text : Text} {cls : TokenClass}
    {length : Nat} (found : lexeme? closable afterWord text = some (cls, length)) :
    (closable = true ∧ Quote.double.stringLength? text = some length ∧
        cls = if beforeColon (text.drop length) then .property else .string) ∨
      (cls = .number ∧ length = numberLength text ∧ 0 < length) ∨
      (cls = .keyword ∧ afterWord = false ∧ length = wordLength text ∧ 0 < length) ∨
      (cls = .punctuation ∧ text.head?.any isPunctuation = true ∧ length = 1) ∨
      (cls = .whitespace ∧ length = text.countWhile isAsciiBlank ∧ 0 < length) := by
  unfold lexeme? at found
  split at found
  · rename_i string
    split at string
    · rename_i closable
      cases found
      exact Or.inl ⟨closable, string, rfl⟩
    · contradiction
  · right
    split at found
    · rename_i number
      cases found
      exact Or.inl ⟨rfl, number.symm, Nat.zero_lt_succ _⟩
    · right
      split at found
      · rename_i word
        split at word
        · contradiction
        · rename_i separate
          cases found
          exact Or.inl ⟨rfl, Bool.not_eq_true _ ▸ separate, word.symm, Nat.zero_lt_succ _⟩
      · right
        split at found
        · rename_i punctuation
          cases found
          exact Or.inl ⟨rfl, punctuation, rfl⟩
        · right
          split at found
          · rename_i blanks
            cases found
            exact ⟨rfl, blanks.symm, Nat.zero_lt_succ _⟩
          · contradiction

/-- A lexeme is not empty, and lies inside the text. -/
theorem lexeme?_bounds {closable afterWord : Bool} {text : Text} {cls : TokenClass}
    {length : Nat} (found : lexeme? closable afterWord text = some (cls, length)) :
    0 < length ∧ length ≤ text.length := by
  rcases lexeme?_cases found with ⟨_, string, _⟩ | ⟨_, rfl, filled⟩ | ⟨_, _, rfl, filled⟩ |
    ⟨_, punctuation, rfl⟩ | ⟨_, rfl, filled⟩
  · exact ⟨Quote.stringLength?_pos string, Quote.stringLength?_le string⟩
  · exact ⟨filled, numberLength_le text⟩
  · exact ⟨filled, wordLength_le text⟩
  · cases text with
    | nil => contradiction
    | cons c rest => exact ⟨Nat.zero_lt_one, Nat.le_add_left _ _⟩
  · exact ⟨filled, text.countWhile_le isAsciiBlank⟩

/-- Where no string starts, it does not matter whether strings are looked for. -/
theorem lexeme?_eq_of_no_string {text : Text}
    (unclosed : Quote.double.stringLength? text = none) (closable afterWord : Bool) :
    lexeme? closable afterWord text = lexeme? true afterWord text := by
  unfold lexeme?
  rw [unclosed, ite_self, ite_self]

/-- Without a lexeme, no string starts either. -/
theorem no_string_of_no_lexeme {afterWord : Bool} {text : Text}
    (absent : lexeme? true afterWord text = none) :
    Quote.double.stringLength? text = none := by
  cases string : Quote.double.stringLength? text with
  | none => rfl
  | some length =>
      unfold lexeme? at absent
      rw [if_pos rfl, string] at absent
      contradiction

end Highlighter.Json
