import Highlighter.Text.Basic

/-!
# Quoted strings and the record of quotes that never close

A string starts with one of three quotes and ends with the next one of the same
kind that no backslash escapes; a backslash escapes whatever character follows it.
`Quote.closingLength?` looks for that end.

A scan that meets many quotes without an end would look through the rest of its
text for each of them.  A `QuoteRecord` remembers for each quote the first place
from which the search failed, and answers every later place without searching.
-/

namespace Highlighter

/-- One of the three quotes. -/
inductive Quote where
  | single
  | double
  | backtick
  deriving DecidableEq, Repr

namespace Quote

/-- All quotes, in the order of their code points. -/
def all : List Quote :=
  [double, single, backtick]

/-- The character a quote is written with. -/
def mark : Quote → Char
  | single => '\x27'
  | double => '\x22'
  | backtick => '\x60'

/-- The quote written with a character. -/
def ofChar? (c : Char) : Option Quote :=
  all.find? (·.mark == c)

@[simp]
theorem ofChar?_mark (quote : Quote) : ofChar? quote.mark = some quote := by
  cases quote <;> decide

/-- A character stands for the quote that is written with it. -/
theorem ofChar?_eq_some_iff {c : Char} {quote : Quote} :
    ofChar? c = some quote ↔ quote.mark = c := by
  constructor
  · intro found
    simpa using List.find?_some found
  · rintro rfl
    exact ofChar?_mark quote

/-- The number of characters through the quote that closes a string, counted in the
text after the opening quote. -/
def closingLength? (quote : Quote) : Text → Option Nat
  | [] => none
  | [c] => if c = quote.mark then some 1 else none
  | c :: d :: rest =>
      if c = quote.mark then some 1
      else if c = '\\' then (closingLength? quote rest).map (· + 2)
      else (closingLength? quote (d :: rest)).map (· + 1)

/-- The length of the closed string at the start of a text, both quotes included.
There is none when the text starts with another character. -/
def stringLength? (quote : Quote) : Text → Option Nat
  | [] => none
  | c :: rest =>
      if c = quote.mark then (closingLength? quote rest).map (· + 1) else none

/-- The length of a string without an end, its quote included: a template runs to the
end of the text, any other string to the end of the line. -/
def openLength (quote : Quote) (afterOpening : Text) : Nat :=
  match quote with
  | backtick => afterOpening.length + 1
  | single | double => afterOpening.lineLength + 1

end Quote

/-- For each quote the first offset from which a search for a string failed. -/
structure QuoteRecord where
  single : Option Nat
  double : Option Nat
  backtick : Option Nat
  deriving DecidableEq, Repr

namespace QuoteRecord

/-- The record of a scan that has not failed yet. -/
def empty : QuoteRecord :=
  ⟨none, none, none⟩

/-- The first failing offset of a quote. -/
def failure? (record : QuoteRecord) : Quote → Option Nat
  | .single => record.single
  | .double => record.double
  | .backtick => record.backtick

/-- Note a failing offset of a quote. -/
def note (record : QuoteRecord) (offset : Nat) : Quote → QuoteRecord
  | .single => { record with single := some offset }
  | .double => { record with double := some offset }
  | .backtick => { record with backtick := some offset }

@[simp]
theorem failure?_empty (quote : Quote) : empty.failure? quote = none := by
  cases quote <;> rfl

@[simp]
theorem failure?_note_self (record : QuoteRecord) (offset : Nat) (quote : Quote) :
    (record.note offset quote).failure? quote = some offset := by
  cases quote <;> rfl

theorem failure?_note_of_ne (record : QuoteRecord) (offset : Nat) {noted quote : Quote}
    (different : quote ≠ noted) :
    (record.note offset noted).failure? quote = record.failure? quote := by
  cases noted <;> cases quote <;> first | rfl | exact absurd rfl different

/-- The length of the closed string at an offset, where the given text starts, and
the record after the attempt.  An offset at or past a recorded failure fails
without a search. -/
def stringLength? (record : QuoteRecord) (quote : Quote) (offset : Nat) (text : Text) :
    Option Nat × QuoteRecord :=
  if (record.failure? quote).any (· ≤ offset) then (none, record)
  else
    match quote.stringLength? text with
    | some length => (some length, record)
    | none => (none, record.note offset quote)

end QuoteRecord

end Highlighter
