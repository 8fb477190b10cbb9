import Highlighter.Proofs.EscapeParity
import Highlighter.Proofs.JsonSearch
import Highlighter.Proofs.NumeralGrammar
import Highlighter.Proofs.Places
import Mathlib.Data.List.Chain

/-!
# What the tokens of any text are in the scan for JSON

A text need not be JSON to be scanned as such.  `InPlace` says for each class of tokens what the
token is between the text before it and the text after it.  A lexeme is one by itself, and what
surrounds it only tells a property from a string and a word from a part of a longer one.  Plain
text is what no lexeme starts in: it holds no digit, no blank and no mark, and its quotes close
nothing.

The scan puts plain text aside until it meets a lexeme.  The induction follows it, with the text
before the place and the plain text put aside as its invariant.
-/

namespace Highlighter.Json

/-! ## Pieces at their places -/

/-- A colon follows, perhaps after blanks. -/
def Named (after : Text) : Prop :=
  ∃ blanks rest, after = blanks ++ ':' :: rest ∧ ∀ c ∈ blanks, isAsciiBlank c = true

/-- A text in which no lexeme starts, in front of the text that follows it. -/
structure Bare (part after : Text) : Prop where
  plain : ∀ c ∈ part, c.isDigit = false ∧ isAsciiBlank c = false ∧ isPunctuation c = false
  unclosable : ∀ front back, part = front ++ Quote.double.mark :: back →
    Quote.double.Unclosable (back ++ after)

/-- What a piece of a class is, between the text before it and the text after it. -/
inductive InPlace (before after : Text) : TokenClass → Text → Prop where
  | identifier {part : Text} (bare : Bare part after) : InPlace before after .identifier part
  | property {inside : Text} (closes : Quote.double.Closes inside) (named : Named after) :
      InPlace before after .property
        (Quote.double.mark :: (inside ++ [Quote.double.mark]))
  | string {inside : Text} (closes : Quote.double.Closes inside) (unnamed : ¬Named after) :
      InPlace before after .string
        (Quote.double.mark :: (inside ++ [Quote.double.mark]))
  | keyword {word : Text} (known : word ∈ words)
      (notBefore : ∀ c ∈ before.getLast?, isWordChar c = false)
      (notAfter : ∀ c ∈ after.head?, isWordChar c = false) : InPlace before after .keyword word
  | number {sign numeral : Text} (signed : sign = [] ∨ sign = ['-'])
      (longest : Numeral.Longest (numeral ++ after) numeral)
      (ended : ∀ c ∈ after.head?, c.isDigit = false) :
      InPlace before after .number (sign ++ numeral)
  | punctuation {c : Char} (mark : isPunctuation c = true) :
      InPlace before after .punctuation [c]
  | whitespace {part : Text} (blank : ∀ c ∈ part, isAsciiBlank c = true) :
      InPlace before after .whitespace part

/-- Pieces that follow a text, none of them empty and each what its class says at its place. -/
inductive AllInPlace : Text → List Piece → Prop where
  | nil {before : Text} : AllInPlace before []
  | cons {before : Text} {piece : Piece} {later : List Piece} (filled : piece.text ≠ [])
      (inPlace : InPlace before (Piece.source later) piece.cls piece.text)
      (others : AllInPlace (before ++ piece.text) later) : AllInPlace before (piece :: later)

/-- At most one of two neighbours is plain text. -/
def NotBothPlain (first second : TokenClass) : Prop :=
  ¬(first = .identifier ∧ second = .identifier)

variable {before part after text : Text} {cls : TokenClass} {length : Nat} {c : Char}
  {closable afterWord : Bool} {aside rest : Text}

theorem AllInPlace.of_split {earlier later : List Piece} {piece : Piece}
    (all : AllInPlace before (earlier ++ piece :: later)) :
    InPlace (before ++ Piece.source earlier) (Piece.source later) piece.cls piece.text := by
  induction earlier generalizing before with
  | nil =>
      rw [Piece.source_nil, List.append_nil]
      cases all with
      | cons _ inPlace _ => exact inPlace
  | cons first others inductionHypothesis =>
      rw [Piece.source_cons, ← List.append_assoc]
      cases all with
      | cons _ _ laterInPlace => exact inductionHypothesis laterInPlace

theorem AllInPlace.ne_nil {pieces : List Piece} (all : AllInPlace before pieces) :
    ∀ piece ∈ pieces, piece.text ≠ [] := by
  induction all with
  | nil => nofun
  | cons filled _ _ inductionHypothesis => exact List.forall_mem_cons.mpr ⟨filled, inductionHypothesis⟩

/-! ## Lexemes -/

theorem beforeColon_iff : beforeColon text = true ↔ Named text := by
  unfold beforeColon
  constructor
  · intro found
    obtain ⟨rest, behind⟩ := List.head?_eq_some_iff.mp (beq_iff_eq.mp found)
    refine ⟨text.takeWhile isAsciiBlank, rest, ?_, ?_⟩
    · rw [← behind, List.takeWhile_append_dropWhile]
    · exact List.all_eq_true.mp List.all_takeWhile
  · rintro ⟨blanks, rest, rfl, blank⟩
    rw [List.dropWhile_append_of_pos blank]
    rfl

/-- A string that is looked for runs through the first quote that closes it, and is a property
exactly when a colon follows. -/
theorem inPlace_of_string (found : Quote.double.stringLength? text = some length) :
    InPlace before (text.drop length)
      (if beforeColon (text.drop length) then .property else .string) (text.take length) := by
  obtain ⟨inside, after, _, closes, taken, left⟩ := Quote.closes_of_stringLength? found
  rw [taken, left]
  split
  · rename_i colon
    exact .property closes (beforeColon_iff.mp colon)
  · rename_i noColon
    exact .string closes fun named => noColon (beforeColon_iff.mpr named)

/-- A number is a numeral with an optional sign in front of it. -/
theorem exists_sign_of_numberLength (present : 0 < numberLength text) :
    ∃ sign rest, (sign = [] ∨ sign = ['-']) ∧ text = sign ++ rest ∧ Numeral.length rest ≠ 0 ∧
      numberLength text = sign.length + Numeral.length rest := by
  cases text with
  | nil => contradiction
  | cons c rest =>
      simp only [numberLength] at present ⊢
      split at present
      · rename_i signed
        rw [if_pos signed]
        split at present
        · contradiction
        · rename_i further measured
          refine ⟨['-'], rest, Or.inr rfl, by rw [signed]; rfl, ?_, ?_⟩
          · rw [measured]
            exact Nat.succ_ne_zero further
          · rw [measured, List.length_singleton]
            exact (Nat.add_comm 1 (further + 1)).symm
      · rename_i unsigned
        rw [if_neg unsigned]
        exact ⟨[], c :: rest, Or.inl rfl, rfl, Nat.pos_iff_ne_zero.mp present, by simp⟩

theorem inPlace_of_number (present : 0 < numberLength text) :
    InPlace before (text.drop (numberLength text)) .number (text.take (numberLength text)) := by
  obtain ⟨sign, rest, signed, rfl, numbered, extent⟩ := exists_sign_of_numberLength present
  have longest := Numeral.longest_take numbered
  have ended := longest.isDigit_eq_false
  rw [List.length_take, Nat.min_eq_left (Numeral.length_le rest)] at ended
  rw [extent, List.take_length_add_append, List.drop_length_add_append]
  apply InPlace.number signed _ ended
  rw [List.take_append_drop]
  exact longest

theorem inPlace_of_word (separate : ∀ c ∈ before.getLast?, isWordChar c = false)
    (present : 0 < wordLength text) :
    InPlace before (text.drop (wordLength text)) .keyword (text.take (wordLength text)) := by
  obtain ⟨word, after, known, rfl, extent, ended⟩ := exists_word_of_wordLength present
  rw [extent, List.take_left, List.drop_left]
  exact .keyword known separate ended

/-- A lexeme that the scan finds is what its class says. -/
theorem inPlace_of_lexeme? (found : lexeme? closable afterWord text = some (cls, length))
    (wordBefore : before.getLast?.any isWordChar = afterWord) :
    InPlace before (text.drop length) cls (text.take length) := by
  rcases lexeme?_cases found with ⟨_, string, rfl⟩ | ⟨rfl, rfl, filled⟩ |
    ⟨rfl, separate, rfl, filled⟩ | ⟨rfl, punctuation, rfl⟩ | ⟨rfl, rfl, filled⟩
  · exact inPlace_of_string string
  · exact inPlace_of_number filled
  · rw [← wordBefore, Option.any_eq_false] at separate
    exact inPlace_of_word separate filled
  · cases text with
    | nil => contradiction
    | cons c rest => exact .punctuation punctuation
  · rw [Text.take_countWhile]
    exact .whitespace (List.all_eq_true.mp List.all_takeWhile)

/-! ## Plain text -/

/-- A digit starts a number. -/
theorem numberLength_ne_zero_of_isDigit (digit : c.isDigit = true) (rest : Text) :
    numberLength (c :: rest) ≠ 0 := by
  have unsigned : c ≠ '-' := by
    rintro rfl
    contradiction
  have counted : Numeral.IsDigits [c] := ⟨List.cons_ne_nil c [], by simpa using digit⟩
  have numeral : Numeral.IsNumeral [c] := .parts counted .absent .absent
  have positive : 1 ≤ Numeral.length (c :: rest) := numeral.length_le rest
  simp only [numberLength, if_neg unsigned]
  exact Nat.pos_iff_ne_zero.mp positive

/-- Where there is no lexeme, there is neither a number nor a mark nor a blank. -/
theorem nothing_of_no_lexeme (absent : lexeme? closable afterWord text = none) :
    numberLength text = 0 ∧ text.head?.any isPunctuation = false ∧
      text.countWhile isAsciiBlank = 0 := by
  unfold lexeme? at absent
  split at absent
  · contradiction
  · split at absent
    · contradiction
    · rename_i unnumbered
      split at absent
      · contradiction
      · split at absent
        · contradiction
        · rename_i unmarked
          split at absent
          · contradiction
          · rename_i unblanked
            exact ⟨unnumbered, Bool.not_eq_true _ ▸ unmarked, unblanked⟩

/-- A character at which no lexeme starts is neither a digit nor a blank nor a mark, and when it
is a quote, it is never closed. -/
theorem bare_of_no_lexeme (absent : lexeme? true afterWord (c :: rest) = none) :
    Bare [c] rest := by
  obtain ⟨unnumbered, unmarked, unblanked⟩ := nothing_of_no_lexeme absent
  constructor
  · intro d member
    rw [List.mem_singleton.mp member]
    refine ⟨?_, ?_, unmarked⟩
    · cases digit : c.isDigit with
      | false => rfl
      | true => exact absurd unnumbered (numberLength_ne_zero_of_isDigit digit rest)
    · cases blank : isAsciiBlank c with
      | false => rfl
      | true => exact absurd unblanked (Text.countWhile_cons_ne_zero blank rest)
  · intro front back split
    cases front with
    | nil =>
        obtain ⟨rfl, rfl⟩ := List.cons.inj split
        exact Quote.stringLength?_mark_eq_none_iff.mp (no_string_of_no_lexeme absent)
    | cons d others =>
        have ended := (List.cons.inj split).2
        cases others <;> contradiction

theorem bare_nil (after : Text) : Bare [] after := by
  constructor
  · nofun
  · intro front back split
    cases front <;> contradiction

/-- Plain text goes on with a character at which no lexeme starts. -/
theorem Bare.append {first second : Text} (here : Bare first (second ++ after))
    (behind : Bare second after) : Bare (first ++ second) after := by
  constructor
  · intro c member
    rcases List.mem_append.mp member with inFirst | inSecond
    · exact here.plain c inFirst
    · exact behind.plain c inSecond
  · intro front back split
    rcases List.append_eq_append_iff.mp split with ⟨between, rfl, rest⟩ | ⟨between, rfl, rest⟩
    · exact behind.unclosable between back rest
    · cases between with
      | nil => exact behind.unclosable [] back rest.symm
      | cons mark others =>
          obtain ⟨rfl, rfl⟩ := List.cons.inj rest
          have unclosable := here.unclosable front others rfl
          rwa [← List.append_assoc] at unclosable

/-! ## The whole scan -/

/-- Plain text put aside comes first, in front of pieces that are in place behind it. -/
theorem allInPlace_flush {later : List Piece} (bare : Bare aside.reverse (Piece.source later))
    (others : AllInPlace (before ++ aside.reverse) later) :
    AllInPlace before (flush aside later) := by
  unfold flush
  split
  · rename_i none_aside
    rw [List.isEmpty_iff.mp none_aside, List.reverse_nil, List.append_nil] at others
    exact others
  · rename_i some_aside
    exact .cons (by simpa using some_aside) (.identifier bare) others

/-- From a place on, the scan makes pieces that are in place: it knows whether a word character
stands before the place, what it put aside is plain text, and it either still looks for strings,
or no string closes any more. -/
theorem allInPlace_piecesFrom
    (wordBefore : (before ++ aside.reverse).getLast?.any isWordChar = afterWord)
    (bare : Bare aside.reverse rest)
    (strings : closable = true ∨ Quote.double.NeverCloses rest) :
    AllInPlace before (piecesFrom closable afterWord aside rest) := by
  fun_induction piecesFrom closable afterWord aside rest generalizing before with
  | case1 closable afterWord aside => exact allInPlace_flush bare .nil
  | case2 closable afterWord aside c rest cls length found lexeme =>
      rename_i inductionHypothesis
      obtain ⟨filled, fits⟩ := lexeme?_bounds found
      obtain ⟨further, rfl⟩ := Nat.exists_eq_add_one.mpr filled
      have inPlace := inPlace_of_lexeme? found wordBefore
      apply allInPlace_flush
      · rw [Piece.source_cons, source_piecesFrom, List.reverse_nil, List.nil_append,
          List.cons_append, List.take_append_drop]
        exact bare
      · apply AllInPlace.cons (List.cons_ne_nil c _)
        · rw [source_piecesFrom]
          exact inPlace
        · apply inductionHypothesis
          · rw [List.reverse_nil, List.append_nil, List.getLast?_append,
              List.getLast?_eq_some_getLast (List.cons_ne_nil c _)]
            rfl
          · exact bare_nil _
          · rcases strings with closable | never
            · exact Or.inl closable
            · exact Or.inr (never.drop (further + 1))
  | case3 closable afterWord aside c rest found inductionHypothesis =>
      -- the character joins the plain text, whose quotes must not close at it either
      apply inductionHypothesis
      · rw [List.reverse_cons, ← List.append_assoc, List.getLast?_concat]
        rfl
      · rw [List.reverse_cons]
        rw [lexeme?_eq_of_strings strings] at found
        exact Bare.append bare (bare_of_no_lexeme found)
      · exact strings_of_no_lexeme strings found

/-- No lexeme is plain text. -/
theorem lexeme?_ne_identifier (found : lexeme? closable afterWord text = some (cls, length)) :
    cls ≠ .identifier := by
  rcases lexeme?_cases found with ⟨_, _, rfl⟩ | ⟨rfl, _⟩ | ⟨rfl, _⟩ | ⟨rfl, _⟩ | ⟨rfl, _⟩
  · split <;> nofun
  all_goals nofun

/-- Plain text in front of pieces of which the first is a lexeme has no plain neighbour. -/
theorem isChain_flush {piece : Piece} {later : List Piece} (lexeme : piece.cls ≠ .identifier)
    (chained : (later.map (·.cls)).IsChain NotBothPlain) :
    ((flush aside (piece :: later)).map (·.cls)).IsChain NotBothPlain := by
  have behind : ((piece :: later).map (·.cls)).IsChain NotBothPlain :=
    chained.cons fun _ _ both => lexeme both.1
  unfold flush
  split
  · exact behind
  · exact behind.cons_cons fun both => lexeme both.2

/-- The scan puts plain text aside as long as it goes on, so a lexeme follows it. -/
theorem isChain_piecesFrom (closable afterWord : Bool) (aside rest : Text) :
    ((piecesFrom closable afterWord aside rest).map (·.cls)).IsChain NotBothPlain := by
  fun_induction piecesFrom closable afterWord aside rest with
  | case1 closable afterWord aside =>
      unfold flush
      split
      · exact .nil
      · exact .singleton _
  | case2 closable afterWord aside c rest cls length found lexeme inductionHypothesis =>
      exact isChain_flush (lexeme?_ne_identifier found) inductionHypothesis
  | case3 closable afterWord aside c rest found inductionHypothesis => exact inductionHypothesis

/-- A malformed text degrades locally in the scan for JSON.  No two plain tokens are neighbours,
and every token is what its class says, in front of the text before it and behind that after it:
plain text holds nothing that could be scanned, and every other token is a lexeme. -/
theorem malformed_text_degrades_locally (text : Text) :
    ((tokens text).map (·.cls)).IsChain NotBothPlain ∧
      ∀ token ∈ tokens text, ∃ before after,
        token.StandsIn text before after ∧ InPlace before after token.cls token.text := by
  have all : AllInPlace [] (pieces text) :=
    allInPlace_piecesFrom rfl (bare_nil text) (Or.inl rfl)
  have same : (tokens text).map Token.piece = pieces text :=
    Token.map_piece_layout all.ne_nil
  constructor
  · have chained := isChain_piecesFrom true false [] text
    rw [← pieces, ← same, List.map_map] at chained
    exact chained
  · intro token member
    obtain ⟨earlier, later, split⟩ := List.append_of_mem member
    have covered := partition_tokens text
    rw [split] at covered same
    rw [List.map_append, List.map_cons] at same
    rw [← same] at all
    refine ⟨_, _, covered.standsIn, ?_⟩
    rw [Token.source_eq_source_map_piece, Token.source_eq_source_map_piece]
    exact all.of_split

example : (tokens ['-', '\x22', 'x', '-', '1', '\\', '\x22']).map Token.piece =
    [⟨.identifier, ['-', '\x22', 'x']⟩, ⟨.number, ['-', '1']⟩,
      ⟨.identifier, ['\\', '\x22']⟩] := by
  decide +kernel

end Highlighter.Json
