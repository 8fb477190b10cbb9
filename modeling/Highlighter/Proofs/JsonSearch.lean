import Highlighter.Proofs.JsonLexeme
import Highlighter.Proofs.UnclosedQuotes

/-!
# The scan for JSON as a search

The scan for JSON gives up strings at the first double quote that does not close.  Here
is a scan that never does: over and over it searches for the next place where one of all
alternatives matches, strings included, and takes a quote without an end for one plain
character.  The text between the end of the last lexeme and the next one is plain.

The two make the same tokens.  The scan that gives up strings does so where no string
closes any more, so that both see the same lexemes at every later place; and a place
where nothing matches, or a quote alone, only lengthens the plain text.
-/

namespace Highlighter.Json

/-! ## Searching with all alternatives -/

/-- What matches at a place: a lexeme of a class, or a quote that no string starts with. -/
inductive Alternative where
  | lexeme (cls : TokenClass)
  | loneQuote
  deriving DecidableEq, Repr

/-- Whether a word character stands before a place of a text. -/
def afterWordAt (text : Text) (place : Nat) : Bool :=
  (text.take place).getLast?.any isWordChar

/-- The first alternative that matches at a place, and the number of its characters.  A
quote alone is the last of them. -/
def matchAt? (text : Text) (place : Nat) : Option (Alternative × Nat) :=
  match lexeme? true (afterWordAt text place) (text.drop place) with
  | some (cls, length) => some (.lexeme cls, length)
  | none =>
      if (text.drop place).head? = some Quote.double.mark then some (.loneQuote, 1) else none

/-- The first match from a place on, with the places where it starts and ends. -/
def search? (text : Text) (place : Nat) : Option (Nat × Alternative × Nat) :=
  if place < text.length then
    match matchAt? text place with
    | some (alternative, length) => some (place, alternative, place + length)
    | none => search? text (place + 1)
  else none
termination_by text.length - place

/-- The part of a text between two places. -/
def slice (text : Text) (start stop : Nat) : Text :=
  (text.drop start).take (stop - start)

/-- The plain text between two places, if there is any. -/
def gap (text : Text) (start stop : Nat) : List Piece :=
  if start < stop then [⟨.identifier, slice text start stop⟩] else []

variable {text : Text} {place last : Nat}

/-- A match is not empty, and lies inside the text. -/
theorem matchAt?_bounds {alternative : Alternative} {length : Nat}
    (matched : matchAt? text place = some (alternative, length)) :
    0 < length ∧ length ≤ text.length - place := by
  rw [← List.length_drop]
  unfold matchAt? at matched
  split at matched
  · rename_i cls extent found
    cases matched
    exact lexeme?_bounds found
  · split at matched
    · rename_i quoted
      cases matched
      obtain ⟨rest, here⟩ := List.head?_eq_some_iff.mp quoted
      rw [here]
      exact ⟨Nat.zero_lt_one, Nat.le_add_left _ _⟩
    · contradiction

/-- What a search finds lies inside the text, at the place or past it, and is not empty. -/
theorem search?_bounds {start stop : Nat} {alternative : Alternative}
    (found : search? text place = some (start, alternative, stop)) :
    place ≤ start ∧ start < stop ∧ stop ≤ text.length := by
  fun_induction search? text place with
  | case1 place inside matching length matched =>
      cases found
      have bounds := matchAt?_bounds matched
      omega
  | case2 place inside unmatched inductionHypothesis =>
      obtain ⟨later, rest⟩ := inductionHypothesis found
      exact ⟨Nat.le_of_succ_le later, rest⟩
  | case3 => contradiction

/-- The pieces from a place on, where the last lexeme before it ended at `last`.  A quote
alone is passed over, and stays in the plain text. -/
def searchPieces (text : Text) (place last : Nat) : List Piece :=
  match _ : search? text place with
  | none => gap text last text.length
  | some (_, .loneQuote, stop) => searchPieces text stop last
  | some (start, .lexeme cls, stop) =>
      gap text last start ++ ⟨cls, slice text start stop⟩ :: searchPieces text stop stop
termination_by text.length - place
decreasing_by
  all_goals
    rename_i found
    have bounds := search?_bounds found
    omega

/-- The tokens of a text by searching with all alternatives up to its end. -/
def searchTokens (text : Text) : List Token :=
  Token.layout false (searchPieces text 0 0)

/-! ## One place after the other -/

theorem search?_of_matchAt? {alternative : Alternative} {length : Nat}
    (inside : place < text.length) (matched : matchAt? text place = some (alternative, length)) :
    search? text place = some (place, alternative, place + length) := by
  rw [search?, if_pos inside, matched]

theorem search?_of_unmatched (inside : place < text.length)
    (unmatched : matchAt? text place = none) :
    search? text place = search? text (place + 1) := by
  rw [search?, if_pos inside, unmatched]

theorem searchPieces_eq (text : Text) (place last : Nat) :
    searchPieces text place last =
      match search? text place with
      | none => gap text last text.length
      | some (_, .loneQuote, stop) => searchPieces text stop last
      | some (start, .lexeme cls, stop) =>
          gap text last start ++ ⟨cls, slice text start stop⟩ :: searchPieces text stop stop := by
  rw [searchPieces]
  split <;> simp only [*]

/-- Past the end of the text, what is left is plain. -/
theorem searchPieces_of_le (ended : text.length ≤ place) :
    searchPieces text place last = gap text last text.length := by
  rw [searchPieces_eq, search?, if_neg (Nat.not_lt.mpr ended)]

/-- A lexeme ends the plain text before it. -/
theorem searchPieces_of_lexeme {cls : TokenClass} {length : Nat} (inside : place < text.length)
    (found : lexeme? true (afterWordAt text place) (text.drop place) = some (cls, length)) :
    searchPieces text place last =
      gap text last place ++ ⟨cls, slice text place (place + length)⟩ ::
        searchPieces text (place + length) (place + length) := by
  have matched : matchAt? text place = some (.lexeme cls, length) := by
    unfold matchAt?
    rw [found]
  rw [searchPieces_eq, search?_of_matchAt? inside matched]

/-- A place without a lexeme belongs to the plain text, whether the search passes over it
or finds a quote alone there. -/
theorem searchPieces_of_no_lexeme (inside : place < text.length)
    (absent : lexeme? true (afterWordAt text place) (text.drop place) = none) :
    searchPieces text place last = searchPieces text (place + 1) last := by
  by_cases quoted : (text.drop place).head? = some Quote.double.mark
  · have matched : matchAt? text place = some (.loneQuote, 1) := by
      unfold matchAt?
      rw [absent, if_pos quoted]
    rw [searchPieces_eq, search?_of_matchAt? inside matched]
  · have unmatched : matchAt? text place = none := by
      unfold matchAt?
      rw [absent, if_neg quoted]
    rw [searchPieces_eq, search?_of_unmatched inside unmatched, ← searchPieces_eq]

/-! ## The scan from a place on -/

theorem slice_self (text : Text) (place : Nat) : slice text place place = [] := by
  rw [slice, Nat.sub_self, List.take_zero]

/-- A part grows by the characters that follow it. -/
theorem slice_add (within : last ≤ place) (count : Nat) :
    slice text last (place + count) = slice text last place ++ (text.drop place).take count := by
  have extent : place + count - last = place - last + count := by omega
  rw [slice, slice, extent, List.take_add, List.drop_drop, Nat.add_sub_cancel' within]

theorem slice_from (text : Text) (place count : Nat) :
    slice text place (place + count) = (text.drop place).take count := by
  rw [slice, Nat.add_sub_cancel_left]

/-- Behind a slice stands its last character. -/
theorem afterWordAt_add {count : Nat} {c : Char} {later : Text}
    (taken : (text.drop place).take count = c :: later) :
    afterWordAt text (place + count) =
      isWordChar ((c :: later).getLast (List.cons_ne_nil c later)) := by
  rw [afterWordAt, List.take_add, taken, List.getLast?_append,
    List.getLast?_eq_some_getLast (List.cons_ne_nil c later), Option.some_or, Option.any_some]

/-- Plain text that was put aside is the gap since the last lexeme. -/
theorem flush_slice (within : last ≤ place) (inside : place ≤ text.length)
    (later : List Piece) :
    flush (slice text last place).reverse later = gap text last place ++ later := by
  have extent : (slice text last place).length = place - last := by
    rw [slice, List.length_take, List.length_drop]
    omega
  unfold flush gap
  by_cases lengthened : last < place
  · have filled : (slice text last place).reverse.isEmpty ≠ true := by
      rw [List.isEmpty_reverse, ne_eq, List.isEmpty_iff_length_eq_zero]
      omega
    rw [if_neg filled, if_pos lengthened, List.reverse_reverse, List.singleton_append]
  · have ended : place = last := by omega
    subst ended
    rw [slice_self, if_neg lengthened]
    rfl

/-- A scan that gave up strings sees the same lexemes where no string closes. -/
theorem lexeme?_eq_of_strings {closable : Bool} {rest : Text}
    (strings : closable = true ∨ Quote.double.NeverCloses rest) (afterWord : Bool) :
    lexeme? closable afterWord rest = lexeme? true afterWord rest := by
  rcases strings with rfl | never
  · rfl
  · exact lexeme?_eq_of_no_string never.here closable afterWord

/-- Past a place without a lexeme, the scan either still looks for strings, or no string
closes any more. -/
theorem strings_of_no_lexeme {closable afterWord : Bool} {c : Char} {rest : Text}
    (strings : closable = true ∨ Quote.double.NeverCloses (c :: rest))
    (absent : lexeme? closable afterWord (c :: rest) = none) :
    (closable && c != Quote.double.mark) = true ∨ Quote.double.NeverCloses rest := by
  rcases strings with rfl | never
  · by_cases quoted : c = Quote.double.mark
    · right
      have opened : (c :: rest).head? = some Quote.double.mark := by
        rw [List.head?_cons, quoted]
      have never :=
        Quote.neverCloses_of_stringLength?_eq_none opened (no_string_of_no_lexeme absent)
      exact never.drop 1
    · left
      simpa using quoted
  · exact Or.inr (never.drop 1)

/-- From a place on, the scan makes the pieces of the search: either it still looks for
strings, or no string closes any more. -/
theorem piecesFrom_eq_searchPieces {closable afterWord : Bool} {aside rest text : Text}
    {place last : Nat} (here : text.drop place = rest) (before : afterWordAt text place = afterWord)
    (plain : (slice text last place).reverse = aside)
    (strings : closable = true ∨ Quote.double.NeverCloses rest)
    (within : last ≤ place) (inside : place ≤ text.length) :
    piecesFrom closable afterWord aside rest = searchPieces text place last := by
  fun_induction piecesFrom closable afterWord aside rest generalizing place last with
  | case1 closable afterWord aside =>
      have ended : text.length ≤ place := List.drop_eq_nil_iff.mp here
      have atEnd : place = text.length := Nat.le_antisymm inside ended
      subst atEnd
      rw [searchPieces_of_le ended, ← plain, flush_slice within inside, List.append_nil]
  | case2 closable afterWord aside c rest cls length found lexeme =>
      rename_i inductionHypothesis
      obtain ⟨filled, fits⟩ := lexeme?_bounds found
      obtain ⟨further, rfl⟩ := Nat.exists_eq_add_one.mpr filled
      have stillInside : place + (further + 1) ≤ text.length := by
        have left := congrArg List.length here
        rw [List.length_drop] at left
        omega
      have present : lexeme? true (afterWordAt text place) (text.drop place) =
          some (cls, further + 1) := by
        rw [here, before, ← lexeme?_eq_of_strings strings, found]
      have taken : (text.drop place).take (further + 1) = lexeme := by
        rw [here]
        rfl
      rw [searchPieces_of_lexeme (by omega) present, ← plain, flush_slice within inside,
        slice_from, taken]
      congr 2
      apply inductionHypothesis
      · rw [← List.drop_drop, here]
        rfl
      · exact afterWordAt_add taken
      · rw [slice_self]
        rfl
      · rcases strings with closable | never
        · exact Or.inl closable
        · exact Or.inr (never.drop (further + 1))
      · exact Nat.le_refl _
      · exact stillInside
  | case3 closable afterWord aside c rest found inductionHypothesis =>
      have stillInside : place < text.length := by
        have left := congrArg List.length here
        rw [List.length_drop, List.length_cons] at left
        omega
      have taken : (text.drop place).take 1 = [c] := by rw [here]; rfl
      have absent : lexeme? true (afterWordAt text place) (text.drop place) = none := by
        rw [here, before, ← lexeme?_eq_of_strings strings, found]
      rw [searchPieces_of_no_lexeme stillInside absent]
      apply inductionHypothesis
      · rw [← List.drop_drop, here, List.drop_one, List.tail_cons]
      · rw [afterWordAt_add taken, List.getLast_singleton]
      · rw [slice_add within, taken, List.reverse_append, plain]
        rfl
      · exact strings_of_no_lexeme strings found
      · exact Nat.le_succ_of_le within
      · exact stillInside

/-- The scan, which gives up strings at the first quote that does not close, makes the
tokens of the search, which never does. -/
theorem tokens_eq_searchTokens (text : Text) : tokens text = searchTokens text := by
  have start : pieces text = searchPieces text 0 0 :=
    piecesFrom_eq_searchPieces List.drop_zero rfl rfl (Or.inl rfl) (Nat.le_refl 0)
      (Nat.zero_le _)
  rw [tokens, searchTokens, start]

end Highlighter.Json
