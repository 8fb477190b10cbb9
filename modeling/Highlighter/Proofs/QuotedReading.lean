import Highlighter.Proofs.Numerals
import Highlighter.Proofs.Reading
import Highlighter.Proofs.TextLines
import Highlighter.Text.Quoted
import Mathlib.Tactic.SplitIfs

/-!
# Reading quoted literals

A literal on one line, between apostrophes or between double quotes, is read with every escape
that such literals can have, whether a writer uses it or not: letters, digits of base sixteen
and of base eight, and the backslash that stands for itself.  What cannot be read is a character
by its name, and a code point that is no character.

Every text is read back from its literal, and a literal is written in printable characters only.
-/

namespace Highlighter.Quoted

open Reading (run Leads)

/-! ## The reader -/

/-- Where a reader is in a literal. -/
inductive Stage where
  | plain
  /-- Behind a backslash. -/
  | escaped
  /-- Before that many digits of base sixteen, behind digits with this value. -/
  | hexadecimal (left value : Nat)
  /-- Before at most that many digits of base eight, behind digits with this value. -/
  | octal (left value : Nat)
  | ended
  deriving DecidableEq, Repr

/-- What a letter or a mark stands for behind a backslash. -/
def escapeLetters : List (Char × Char) :=
  [('\\', '\\'), ('\x27', '\x27'), ('\x22', '\x22'), ('a', '\x07'), ('b', '\x08'), ('f', '\x0c'),
    ('n', '\n'), ('r', '\r'), ('t', '\t'), ('v', '\x0b')]

/-- The letters in front of digits of base sixteen, and how many digits follow. -/
def digitCounts : List (Char × Nat) :=
  [('x', 2), ('u', 4), ('U', 8)]

/-- The value of a digit of base eight. -/
def octalValue? (c : Char) : Option Nat :=
  (hexValue? c).filter (· < 8)

/-- A character that no line of source text holds. -/
def endsLine (c : Char) : Bool :=
  c == '\n' || c == '\r' || c == '\x00'

/-- Read a character outside of an escape. -/
def plainStep (quote c : Char) : Option (Stage × Text) :=
  if c = quote then some (.ended, [])
  else if c = '\\' then some (.escaped, [])
  else if endsLine c then none
  else some (.plain, [c])

/-- Read the character behind a backslash. -/
def escapedStep (c : Char) : Option (Stage × Text) :=
  match escapeLetters.lookup c, digitCounts.lookup c, octalValue? c with
  | some meant, _, _ => some (.plain, [meant])
  | none, some count, _ => some (.hexadecimal count 0, [])
  | none, none, some value => some (.octal 2 value, [])
  | none, none, none => if c = 'N' ∨ endsLine c then none else some (.plain, ['\\', c])

/-- Read one character of a literal behind its first quote. -/
def step (quote : Char) (stage : Stage) (c : Char) : Option (Stage × Text) :=
  match stage with
  | .plain => plainStep quote c
  | .escaped => escapedStep c
  | .hexadecimal left value =>
      (hexValue? c).bind fun digit =>
        if left ≤ 1 then (codePoint? (value * 16 + digit)).map fun meant => (.plain, [meant])
        else some (.hexadecimal (left - 1) (value * 16 + digit), [])
  | .octal left value =>
      match octalValue? c with
      | some digit =>
          if left ≤ 1 then (codePoint? (value * 8 + digit)).map fun meant => (.plain, [meant])
          else some (.octal (left - 1) (value * 8 + digit), [])
      | none =>
          (codePoint? value).bind fun meant =>
            (plainStep quote c).map fun (next, met) => (next, meant :: met)
  | .ended => none

/-- The quotes that a literal can stand between. -/
def IsQuote (quote : Char) : Prop :=
  quote = '\x27' ∨ quote = '\x22'

instance (quote : Char) : Decidable (IsQuote quote) :=
  inferInstanceAs (Decidable (_ ∨ _))

theorem isQuote_quoteFor (text : Text) : IsQuote (quoteFor text) := by
  unfold quoteFor
  split
  · exact .inr rfl
  · exact .inl rfl

/-- The text that a literal stands for. -/
def decode? : Text → Option Text
  | [] => none
  | quote :: body =>
      if IsQuote quote then
        match run (step quote) .plain body with
        | some (.ended, text) => some text
        | _ => none
      else none

example : decode? "'\\x41\\101\\q\\'\\n'".toList = some "AA\\q'\n".toList := by decide

/-! ## Escapes -/

section

variable {quote : Char}

/-- How a character is written: behind a backslash, with an escape letter, as it is, or with its
code point. -/
inductive Written (quote : Char) : Char → Text → Prop
  | marked {c : Char} (mark : c = quote ∨ c = '\\') : Written quote c ['\\', c]
  | lettered {c letter : Char} (member : (letter, c) ∈ [('n', '\n'), ('r', '\r'), ('t', '\t')]) :
      Written quote c ['\\', letter]
  | shown {c : Char} (other : c ≠ quote) (unescaped : c ≠ '\\') (printable : isPrintable c = true) :
      Written quote c [c]
  | numbered {c letter : Char} {width : Nat} (counted : (letter, width) ∈ digitCounts)
      (fits : c.toNat < Nat.pow 16 width) :
      Written quote c ('\\' :: letter :: Text.hexadecimal width c.toNat)

theorem written_encodeChar (quote c : Char) : Written quote c (encodeChar quote c) := by
  have bounded : c.toNat < Nat.pow 16 8 := by
    have valid : c.toNat < 0x110000 := by
      rcases c.valid with low | high
      · exact Nat.lt_trans low (by decide)
      · exact high.2
    exact Nat.lt_trans valid (by decide)
  unfold encodeChar
  split_ifs with marked feed returned tab printable short middle
  · exact .marked marked
  · exact .lettered (by simp [feed])
  · exact .lettered (by simp [returned])
  · exact .lettered (by simp [tab])
  · rw [not_or] at marked
    exact .shown marked.1 marked.2 printable
  · exact .numbered (by simp [digitCounts]) short
  · exact .numbered (by simp [digitCounts]) middle
  · exact .numbered (by simp [digitCounts]) bounded

/-- A backslash begins an escape. -/
theorem leads_backslash (isQuote : IsQuote quote) {c : Char} {stage : Stage} {met : Text}
    (escape : escapedStep c = some (stage, met)) :
    Leads (step quote) .plain ['\\', c] stage met := by
  have other : '\\' ≠ quote := by
    rcases isQuote with rfl | rfl <;> decide
  have backslash : Leads (step quote) .plain ['\\'] .escaped [] :=
    .single (by simp [step, plainStep, other])
  exact backslash.append (.single escape)

/-- Digits of base sixteen are read as the character of their value. -/
theorem leads_hexDigits {digits : Text} {value number : Nat} {meant : Char}
    (filled : digits ≠ [])
    (read : digits.foldlM (fun number c => (hexValue? c).map (number * 16 + ·)) value =
      some number)
    (known : codePoint? number = some meant) :
    Leads (step quote) (.hexadecimal digits.length value) digits .plain [meant] := by
  induction digits generalizing value with
  | nil => contradiction
  | cons c later inductionHypothesis =>
      rw [List.foldlM_cons] at read
      obtain ⟨next, first, others⟩ := Option.bind_eq_some_iff.mp read
      obtain ⟨digit, held, rfl⟩ := Option.map_eq_some_iff.mp first
      cases later with
      | nil =>
          cases others
          exact .single (by simp [step, held, known])
      | cons d rest =>
          have digitRead : Leads (step quote) (.hexadecimal (c :: d :: rest).length value) [c]
              (.hexadecimal (d :: rest).length (value * 16 + digit)) [] :=
            .single (by simp [step, held])
          exact digitRead.append (inductionHypothesis (by simp) others)

/-- A character that is written with its code point. -/
theorem leads_codePoint (isQuote : IsQuote quote) {c letter : Char} {width : Nat}
    (counted : escapedStep letter = some (.hexadecimal width 0, [])) (filled : width ≠ 0)
    (fits : c.toNat < Nat.pow 16 width) :
    Leads (step quote) .plain ('\\' :: letter :: Text.hexadecimal width c.toNat) .plain [c] := by
  have digits : Text.hexadecimal width c.toNat ≠ [] := by
    rw [← List.length_pos_iff, Text.length_hexadecimal]
    exact Nat.pos_of_ne_zero filled
  have read := @leads_hexDigits quote _ _ _ _ digits (Text.hexNumber?_hexadecimal fits)
    (codePoint?_toNat c)
  rw [Text.length_hexadecimal] at read
  exact (leads_backslash isQuote counted).append read

theorem endsLine_of_isPrintable {c : Char} (printable : isPrintable c = true) :
    endsLine c = false := by
  cases ends : endsLine c with
  | false => rfl
  | true =>
      simp only [endsLine, Bool.or_eq_true, beq_iff_eq] at ends
      rcases ends with (rfl | rfl) | rfl <;> exact absurd printable (by decide)

/-- Every character is read back from how it is written. -/
theorem Written.leads (isQuote : IsQuote quote) {c : Char} {written : Text}
    (way : Written quote c written) : Leads (step quote) .plain written .plain [c] := by
  cases way with
  | marked mark =>
      apply leads_backslash isQuote
      rcases mark with rfl | rfl
      · rcases isQuote with rfl | rfl <;> rfl
      · rfl
  | lettered member =>
      have read : ∀ entry ∈ [('n', '\n'), ('r', '\r'), ('t', '\t')],
          escapedStep entry.1 = some (.plain, [entry.2]) := by decide
      exact leads_backslash isQuote (read _ member)
  | shown other unescaped printable =>
      exact .single (by
        simp [step, plainStep, other, unescaped, endsLine_of_isPrintable printable])
  | numbered counted fits =>
      have filled : ∀ entry ∈ digitCounts,
          escapedStep entry.1 = some (.hexadecimal entry.2 0, []) ∧ entry.2 ≠ 0 := by decide
      obtain ⟨escape, some⟩ := filled _ counted
      exact leads_codePoint isQuote escape some fits

/-- A text is read back from its literal. -/
@[simp]
theorem decode?_encode (text : Text) : decode? (encode text) = some text := by
  have isQuote := isQuote_quoteFor text
  have body : Leads (step (quoteFor text)) .plain (text.flatMap (encodeChar (quoteFor text)))
      .plain (text.flatMap ([·])) :=
    .flatMap fun c _ => (written_encodeChar (quoteFor text) c).leads isQuote
  have closed : Leads (step (quoteFor text)) .plain [quoteFor text] .ended [] :=
    .single (by simp [step, plainStep])
  have whole := body.append closed
  rw [List.flatMap_singleton', List.append_nil] at whole
  unfold Leads at whole
  simp [encode, decode?, whole, isQuote]

end

/-! ## Printable characters -/

theorem isPrintable_of_mem_hexadecimal {width value : Nat} {c : Char}
    (member : c ∈ Text.hexadecimal width value) : isPrintable c = true := by
  have digits : ∀ digit < 16, isPrintable (Text.smallDigit digit) = true := by decide
  induction width generalizing value with
  | zero => contradiction
  | succ width inductionHypothesis =>
      rw [Text.hexadecimal, List.mem_append, List.mem_singleton] at member
      rcases member with front | rfl
      · exact inductionHypothesis front
      · exact digits _ (Nat.mod_lt _ (by decide))

theorem IsQuote.isPrintable {quote : Char} (isQuote : IsQuote quote) :
    isPrintable quote = true := by
  rcases isQuote with rfl | rfl <;> decide

/-- What a character is written with can be shown. -/
theorem Written.isPrintable {quote c d : Char} {written : Text} (isQuote : IsQuote quote)
    (way : Written quote c written) (member : d ∈ written) : isPrintable d = true := by
  have backslash : Highlighter.isPrintable '\\' = true := by decide
  cases way with
  | marked mark =>
      have shown : Highlighter.isPrintable c = true := by
        rcases mark with rfl | rfl
        · exact isQuote.isPrintable
        · exact backslash
      simp only [List.mem_cons, List.not_mem_nil, or_false] at member
      rcases member with rfl | rfl
      · exact backslash
      · exact shown
  | lettered counted =>
      have letters : ∀ entry ∈ [('n', '\n'), ('r', '\r'), ('t', '\t')],
          Highlighter.isPrintable entry.1 = true := by decide
      simp only [List.mem_cons, List.not_mem_nil, or_false] at member
      rcases member with rfl | rfl
      · exact backslash
      · exact letters _ counted
  | shown _ _ printable =>
      rw [List.mem_singleton.mp member]
      exact printable
  | numbered counted fits =>
      have letters : ∀ entry ∈ digitCounts, Highlighter.isPrintable entry.1 = true := by decide
      rcases List.mem_cons.mp member with rfl | behind
      · exact backslash
      · rcases List.mem_cons.mp behind with rfl | digit
        · exact letters _ counted
        · exact isPrintable_of_mem_hexadecimal digit

/-- A literal holds printable characters only. -/
theorem isPrintable_of_mem_encode {text : Text} {c : Char} (member : c ∈ encode text) :
    isPrintable c = true := by
  have isQuote := isQuote_quoteFor text
  simp only [encode, List.mem_cons, List.mem_append, List.not_mem_nil, or_false] at member
  rcases member with (rfl | inside) | rfl
  · exact isQuote.isPrintable
  · obtain ⟨shown, _, written⟩ := List.mem_flatMap.mp inside
    exact (written_encodeChar (quoteFor text) shown).isPrintable isQuote written
  · exact isQuote.isPrintable

/-- No line break of any kind can be shown. -/
theorem isLineBreak_of_isPrintable {c : Char} (printable : isPrintable c = true) :
    Text.isLineBreak c = false := by
  cases breaks : Text.isLineBreak c with
  | false => rfl
  | true =>
      simp only [Text.isLineBreak, Bool.or_eq_true, beq_iff_eq, or_assoc] at breaks
      rcases breaks with rfl | rfl | rfl | rfl | rfl | rfl | rfl | rfl | rfl | rfl <;>
        exact absurd printable (by decide +kernel)

end Highlighter.Quoted
