import Highlighter.Proofs.Coverage
import Mathlib.Data.List.Chain

/-!
# Documents of JSON as they are written

A value of JSON here is a tree that keeps how each string and each number is written.
Written out, it is a sequence of lexemes, and a layout puts blanks in front of each of them
and behind the last one.

What can stand next to what is said by `Lexeme.Adjacent`: one of two neighbours is a mark
of punctuation, and a colon follows the keys and nothing else.  Any two neighbours in a
value are adjacent in this sense.
-/

namespace Highlighter.Json

/-! ## Numbers and strings -/

/-- A decimal digit. -/
abbrev Digit := { c : Char // c.isDigit = true }

/-- Decimal digits, at least one. -/
structure Digits where
  first : Digit
  later : List Digit

def Digits.text (digits : Digits) : Text :=
  digits.first.val :: digits.later.map Subtype.val

/-- The sign of an exponent. -/
inductive Sign where
  | plus
  | minus

def Sign.char : Sign → Char
  | plus => '+'
  | minus => '-'

/-- An exponent: its letter, perhaps a sign, and its digits. -/
structure Exponent where
  capital : Bool
  sign : Option Sign
  digits : Digits

def Exponent.text (exponent : Exponent) : Text :=
  (if exponent.capital then 'E' else 'e') ::
    ((exponent.sign.map Sign.char).toList ++ exponent.digits.text)

/-- A number as it is written.  A zero in front stands alone. -/
structure Number where
  negative : Bool
  whole : Digits
  no_leading_zero : whole.first.val = '0' → whole.later = []
  fraction : Option Digits
  exponent : Option Exponent

namespace Number

/-- The point and the digits behind it, if there are any. -/
def fractionText (number : Number) : Text :=
  match number.fraction with
  | none => []
  | some digits => '.' :: digits.text

def exponentText (number : Number) : Text :=
  match number.exponent with
  | none => []
  | some exponent => exponent.text

def unsignedText (number : Number) : Text :=
  number.whole.text ++ (number.fractionText ++ number.exponentText)

def text (number : Number) : Text :=
  if number.negative then '-' :: number.unsignedText else number.unsignedText

end Number

/-- A digit of base sixteen, in either case. -/
abbrev HexDigit :=
  { c : Char //
    c.isDigit = true ∨ c ∈ ['a', 'b', 'c', 'd', 'e', 'f', 'A', 'B', 'C', 'D', 'E', 'F'] }

/-- A part of a string: a character that stands for itself, an escaped one, or one that is
written by its code. -/
inductive StringPart where
  | plain (c : Char) (printable : ' ' ≤ c) (unmarked : c ≠ '\x22' ∧ c ≠ '\\')
  | escape (c : Char) (named : c ∈ ['\x22', '\\', '/', 'b', 'f', 'n', 'r', 't'])
  | code (first second third fourth : HexDigit)

def StringPart.text : StringPart → Text
  | plain c _ _ => [c]
  | escape c _ => ['\\', c]
  | code first second third fourth =>
      ['\\', 'u', first.val, second.val, third.val, fourth.val]

/-- The parts of a string between its quotes. -/
abbrev Contents := List StringPart

def Contents.text (contents : Contents) : Text :=
  contents.flatMap StringPart.text

/-- A string with its quotes. -/
def quoted (contents : Contents) : Text :=
  '\x22' :: (contents.text ++ ['\x22'])

/-! ## Values and their lexemes -/

/-- A value of JSON. -/
inductive Value where
  | null
  | flag (truth : Bool)
  | number (written : Number)
  | string (contents : Contents)
  | array (items : List Value)
  | object (members : List (Contents × Value))

/-- A mark of punctuation. -/
inductive Mark where
  | openArray
  | closeArray
  | openObject
  | closeObject
  | comma
  | colon
  deriving DecidableEq

def Mark.char : Mark → Char
  | openArray => '['
  | closeArray => ']'
  | openObject => '\x7b'
  | closeObject => '\x7d'
  | comma => ','
  | colon => ':'

/-- The least part of a document between which blanks may stand. -/
inductive Lexeme where
  | mark (sign : Mark)
  /-- The name of a member of an object. -/
  | key (contents : Contents)
  | string (contents : Contents)
  | number (written : Number)
  | flag (truth : Bool)
  | null

namespace Lexeme

def text : Lexeme → Text
  | mark sign => [sign.char]
  | key contents => quoted contents
  | string contents => quoted contents
  | number written => written.text
  | flag true => ['t', 'r', 'u', 'e']
  | flag false => ['f', 'a', 'l', 's', 'e']
  | null => ['n', 'u', 'l', 'l']

/-- The class that a lexeme has as a token. -/
def tokenClass : Lexeme → TokenClass
  | mark _ => .punctuation
  | key _ => .property
  | string _ => .string
  | number _ => .number
  | flag _ | null => .keyword

def piece (lexeme : Lexeme) : Piece :=
  ⟨lexeme.tokenClass, lexeme.text⟩

def isMark : Lexeme → Bool
  | mark _ => true
  | _ => false

def isKey : Lexeme → Bool
  | key _ => true
  | _ => false

def isColon : Lexeme → Bool
  | mark .colon => true
  | _ => false

/-- What may stand next to each other: one of two neighbours is a mark, and a colon is
behind a key. -/
def Adjacent (first second : Lexeme) : Prop :=
  (first.isMark || second.isMark) = true ∧ first.isKey = second.isColon

theorem isKey_eq_false_of_isMark {lexeme : Lexeme} (marked : lexeme.isMark = true) :
    lexeme.isKey = false := by
  cases lexeme with
  | mark => rfl
  | key | string | number | flag | null => contradiction

/-- Behind a mark stands anything but a colon. -/
theorem adjacent_of_isMark {first second : Lexeme} (marked : first.isMark = true)
    (uncoloned : second.isColon = false) : Adjacent first second :=
  ⟨by rw [marked, Bool.true_or], by rw [isKey_eq_false_of_isMark marked, uncoloned]⟩

end Lexeme

mutual

/-- The lexemes of a value in their order. -/
def Value.lexemes : Value → List Lexeme
  | .null => [.null]
  | .flag truth => [.flag truth]
  | .number written => [.number written]
  | .string contents => [.string contents]
  | .array items => .mark .openArray :: (itemLexemes items ++ [.mark .closeArray])
  | .object members => .mark .openObject :: (memberLexemes members ++ [.mark .closeObject])

/-- The lexemes of values with commas between them. -/
def itemLexemes : List Value → List Lexeme
  | [] => []
  | [item] => item.lexemes
  | item :: next :: later => item.lexemes ++ .mark .comma :: itemLexemes (next :: later)

/-- The lexemes of members with commas between them. -/
def memberLexemes : List (Contents × Value) → List Lexeme
  | [] => []
  | [(name, value)] => .key name :: .mark .colon :: value.lexemes
  | (name, value) :: next :: later =>
      .key name :: .mark .colon ::
        (value.lexemes ++ .mark .comma :: memberLexemes (next :: later))

end

variable {previous next : Lexeme} {later : List Lexeme}

/-- A lexeme that is neither key nor colon may stand between marks, of which the second is
no colon. -/
theorem Lexeme.isChain_between {lexeme : Lexeme} (keyless : lexeme.isKey = false)
    (other : lexeme.isColon = false) (opened : previous.isMark = true)
    (closed : next.isMark = true) (uncoloned : next.isColon = false)
    (chained : (next :: later).IsChain Adjacent) :
    (previous :: lexeme :: next :: later).IsChain Adjacent := by
  have behind : Adjacent lexeme next :=
    ⟨by rw [closed, Bool.or_true], by rw [keyless, uncoloned]⟩
  exact .cons_cons (adjacent_of_isMark opened other) (.cons_cons behind chained)

/-- What stands between brackets may stand there with its brackets. -/
theorem Lexeme.isChain_enclosed {opening closing : Mark} {inside : List Lexeme}
    (openingOther : opening ≠ .colon)
    (opened : previous.isMark = true)
    (chained : (mark opening :: (inside ++ mark closing :: next :: later)).IsChain Adjacent) :
    (previous :: (mark opening :: (inside ++ [mark closing]) ++ next :: later)).IsChain
      Adjacent := by
  have other : (mark opening).isColon = false := by
    cases opening <;> first | rfl | contradiction
  rw [List.cons_append, List.append_assoc]
  exact .cons_cons (adjacent_of_isMark opened other) chained

mutual

/-- Between marks, of which the second is no colon, a value has adjacent neighbours. -/
theorem Value.isChain_lexemes (value : Value) {previous next : Lexeme} {later : List Lexeme}
    (opened : previous.isMark = true) (closed : next.isMark = true)
    (uncoloned : next.isColon = false) (chained : (next :: later).IsChain Lexeme.Adjacent) :
    (previous :: (value.lexemes ++ next :: later)).IsChain Lexeme.Adjacent := by
  have ended (closing : Mark) : (.mark closing :: next :: later).IsChain Lexeme.Adjacent :=
    .cons_cons (Lexeme.adjacent_of_isMark rfl uncoloned) chained
  cases value with
  | null | flag | number | string =>
      exact Lexeme.isChain_between rfl rfl opened closed uncoloned chained
  | array items =>
      exact Lexeme.isChain_enclosed nofun opened
        (isChain_itemLexemes items rfl rfl rfl (ended .closeArray))
  | object members =>
      exact Lexeme.isChain_enclosed nofun opened
        (isChain_memberLexemes members rfl rfl rfl (ended .closeObject))

/-- The same of values with commas between them. -/
theorem isChain_itemLexemes (items : List Value) {previous next : Lexeme} {later : List Lexeme}
    (opened : previous.isMark = true) (closed : next.isMark = true)
    (uncoloned : next.isColon = false) (chained : (next :: later).IsChain Lexeme.Adjacent) :
    (previous :: (itemLexemes items ++ next :: later)).IsChain Lexeme.Adjacent := by
  match items with
  | [] => exact .cons_cons (Lexeme.adjacent_of_isMark opened uncoloned) chained
  | [item] => exact item.isChain_lexemes opened closed uncoloned chained
  | item :: second :: others =>
      have rest : (.mark .comma :: (itemLexemes (second :: others) ++ next :: later)).IsChain
          Lexeme.Adjacent :=
        isChain_itemLexemes (second :: others) rfl closed uncoloned chained
      rw [itemLexemes, List.append_assoc]
      exact item.isChain_lexemes opened rfl rfl rest

/-- The same of members with commas between them: a key has its colon behind it. -/
theorem isChain_memberLexemes (members : List (Contents × Value)) {previous next : Lexeme}
    {later : List Lexeme} (opened : previous.isMark = true) (closed : next.isMark = true)
    (uncoloned : next.isColon = false) (chained : (next :: later).IsChain Lexeme.Adjacent) :
    (previous :: (memberLexemes members ++ next :: later)).IsChain Lexeme.Adjacent := by
  have named (name : Contents) : Lexeme.Adjacent previous (.key name) :=
    Lexeme.adjacent_of_isMark opened rfl
  have coloned (name : Contents) : Lexeme.Adjacent (.key name) (.mark .colon) := ⟨rfl, rfl⟩
  match members with
  | [] => exact .cons_cons (Lexeme.adjacent_of_isMark opened uncoloned) chained
  | [(name, value)] =>
      exact .cons_cons (named name)
        (.cons_cons (coloned name) (value.isChain_lexemes rfl closed uncoloned chained))
  | (name, value) :: second :: others =>
      have rest : (.mark .comma :: (memberLexemes (second :: others) ++ next :: later)).IsChain
          Lexeme.Adjacent :=
        isChain_memberLexemes (second :: others) rfl closed uncoloned chained
      rw [memberLexemes, List.cons_append, List.cons_append, List.append_assoc]
      exact .cons_cons (named name)
        (.cons_cons (coloned name) (value.isChain_lexemes rfl rfl rfl rest))

end

/-! ## Layouts -/

/-- A blank that may stand between lexemes. -/
inductive Blank where
  | space
  | tab
  | lineFeed
  | carriageReturn
  deriving DecidableEq

def Blank.char : Blank → Char
  | space => ' '
  | tab => '\t'
  | lineFeed => '\n'
  | carriageReturn => '\r'

/-- A run of blanks as one piece, if there are any. -/
def gapPieces (blanks : List Blank) : List Piece :=
  if blanks.isEmpty then [] else [⟨.whitespace, blanks.map Blank.char⟩]

/-- Lexemes with blanks in front of each of them and behind the last.  The blanks are given
by the number of lexemes before them. -/
def layout (blanks : Nat → List Blank) : List Lexeme → List Piece
  | [] => gapPieces (blanks 0)
  | lexeme :: later =>
      gapPieces (blanks 0) ++ lexeme.piece :: layout (fun count => blanks (count + 1)) later

/-- The text of lexemes with blanks between them. -/
def layoutText (blanks : Nat → List Blank) (lexemes : List Lexeme) : Text :=
  Piece.source (layout blanks lexemes)

example :
    layoutText (fun count => List.replicate count .space)
        (Value.object [([.plain 'a' (by decide) (by decide)], .array [.flag true])]).lexemes =
      "\x7b \"a\"  :   [    true     ]      \x7d       ".toList := by
  decide +kernel

theorem source_gapPieces (blanks : List Blank) :
    Piece.source (gapPieces blanks) = blanks.map Blank.char := by
  cases blanks with
  | nil => rfl
  | cons blank later => simp [gapPieces]

theorem layoutText_nil (blanks : Nat → List Blank) :
    layoutText blanks [] = (blanks 0).map Blank.char :=
  source_gapPieces (blanks 0)

theorem layoutText_cons (blanks : Nat → List Blank) (lexeme : Lexeme) (later : List Lexeme) :
    layoutText blanks (lexeme :: later) =
      (blanks 0).map Blank.char ++
        (lexeme.text ++ layoutText (fun count => blanks (count + 1)) later) := by
  rw [layoutText, layout, Piece.source_append, source_gapPieces, Piece.source_cons]
  rfl

/-- The pieces of a layout are runs of blanks and lexemes. -/
theorem mem_layout {blanks : Nat → List Blank} {lexemes : List Lexeme} {piece : Piece}
    (member : piece ∈ layout blanks lexemes) :
    (∃ run, run ≠ [] ∧ piece = ⟨.whitespace, run.map Blank.char⟩) ∨
      ∃ lexeme ∈ lexemes, piece = lexeme.piece := by
  have gap : ∀ run, piece ∈ gapPieces run →
      ∃ run, run ≠ [] ∧ piece = ⟨.whitespace, run.map Blank.char⟩ := by
    intro run inside
    unfold gapPieces at inside
    split at inside
    · contradiction
    · rename_i filled
      exact ⟨run, by simpa using filled, List.mem_singleton.mp inside⟩
  induction lexemes generalizing blanks with
  | nil => exact Or.inl (gap _ member)
  | cons lexeme later inductionHypothesis =>
      rcases List.mem_append.mp member with inside | rest
      · exact Or.inl (gap _ inside)
      · rcases List.mem_cons.mp rest with rfl | others
        · exact Or.inr ⟨lexeme, List.mem_cons_self, rfl⟩
        · rcases inductionHypothesis others with run | ⟨other, further, same⟩
          · exact Or.inl run
          · exact Or.inr ⟨other, List.mem_cons_of_mem lexeme further, same⟩

theorem Lexeme.tokenClass_ne (lexeme : Lexeme) :
    lexeme.tokenClass ≠ .whitespace ∧ lexeme.tokenClass ≠ .identifier := by
  cases lexeme <;> exact ⟨nofun, nofun⟩

/-- No piece of a layout is plain text. -/
theorem ne_identifier_of_mem_layout (blanks : Nat → List Blank) (lexemes : List Lexeme) :
    ∀ piece ∈ layout blanks lexemes, piece.cls ≠ .identifier := by
  intro piece member
  rcases mem_layout member with ⟨run, _, rfl⟩ | ⟨lexeme, _, rfl⟩
  · exact nofun
  · exact lexeme.tokenClass_ne.2

/-- Without the blanks, a layout is its lexemes. -/
theorem filter_layout (blanks : Nat → List Blank) (lexemes : List Lexeme) :
    (layout blanks lexemes).filter (·.cls != .whitespace) = lexemes.map Lexeme.piece := by
  have gap : ∀ run, (gapPieces run).filter (·.cls != .whitespace) = [] := by
    intro run
    unfold gapPieces
    split <;> rfl
  induction lexemes generalizing blanks with
  | nil => exact gap _
  | cons lexeme later inductionHypothesis =>
      have kept : (lexeme.piece.cls != .whitespace) = true := bne_iff_ne.mpr lexeme.tokenClass_ne.1
      rw [layout, List.filter_append, gap, List.nil_append, List.filter_cons, if_pos kept,
        inductionHypothesis, List.map_cons]

/-- Behind a piece that is no white space, no two neighbours of a layout are. -/
theorem isChain_cons_layout (blanks : Nat → List Blank) (lexemes : List Lexeme) {first : Piece}
    (other : first.cls ≠ .whitespace) :
    (first :: layout blanks lexemes).IsChain
      (fun first second => ¬(first.cls = .whitespace ∧ second.cls = .whitespace)) := by
  induction lexemes generalizing blanks first with
  | nil =>
      unfold layout gapPieces
      split
      · exact .singleton _
      · exact .cons_cons (fun both => other both.1) (.singleton _)
  | cons lexeme later inductionHypothesis =>
      have rest : (lexeme.piece :: layout (fun count => blanks (count + 1)) later).IsChain _ :=
        inductionHypothesis _ lexeme.tokenClass_ne.1
      unfold layout gapPieces
      split
      · exact .cons_cons (fun both => other both.1) rest
      · exact .cons_cons (fun both => other both.1)
          (.cons_cons (fun both => lexeme.tokenClass_ne.1 both.2) rest)

/-- Each run of blanks of a layout is one piece. -/
theorem isChain_layout (blanks : Nat → List Blank) (lexemes : List Lexeme) :
    (layout blanks lexemes).IsChain
      (fun first second => ¬(first.cls = .whitespace ∧ second.cls = .whitespace)) := by
  have behind : (Lexeme.null.piece :: layout blanks lexemes).IsChain
      (fun first second => ¬(first.cls = .whitespace ∧ second.cls = .whitespace)) :=
    isChain_cons_layout blanks lexemes Lexeme.null.tokenClass_ne.1
  exact behind.tail

end Highlighter.Json
