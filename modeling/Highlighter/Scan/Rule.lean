import Highlighter.Dialect
import Highlighter.Scan.Numeral
import Highlighter.Scan.Quote
import Highlighter.Token.Basic

/-!
# The nine rules of the scan for programming languages

Each rule looks at the text that is left and says how many characters it would
take; zero means that it does not apply.  A rule is always asked about a text with
a next character, so it is given that character and what follows it.

Only the rule for strings looks further than the text at hand: it consults the
record of quotes that never close.
-/

namespace Highlighter

/-- One alternative of the scan. -/
inductive ScanRule where
  | string
  | comment
  | keyword
  | type
  | number
  | functionCall
  | identifier
  | punctuation
  | whitespace
  deriving DecidableEq, Repr

namespace ScanRule

/-- The rules in order of priority: the first that applies wins. -/
def standard : List ScanRule :=
  [string, comment, keyword, type, number, functionCall, identifier, punctuation,
    whitespace]

/-- The class of the tokens a rule makes. -/
def tokenClass : ScanRule → TokenClass
  | string => .string
  | comment => .comment
  | keyword => .keyword
  | type => .type
  | number => .number
  | functionCall => .functionCall
  | identifier => .identifier
  | punctuation => .punctuation
  | whitespace => .whitespace

/-- The number of word characters at the start of a text. -/
def wordLength (text : Text) : Nat :=
  text.countWhile isWordChar

/-- The length of the word at the start of a text if it belongs to a set of words. -/
def wordLengthIf (belongs : Text → Bool) (text : Text) : Nat :=
  if belongs (text.takeWhile isWordChar) then wordLength text else 0

/-- The length of a comment: a line comment ends with the line, a block comment after
its closing mark or, without one, with the text. -/
def commentLength (comments : CommentStyle) (text : Text) : Nat :=
  if comments.lineMarker.isPrefixOf text then text.lineLength
  else if comments.blocks && ['/', '*'].isPrefixOf text then
    match Text.lengthThrough? ['*', '/'] (text.drop 2) with
    | some length => length + 2
    | none => text.length
  else 0

/-- The length of a numeral that no word character follows. -/
def numberLength (text : Text) : Nat :=
  let length := Numeral.length text
  if (text.drop length).head?.any isWordChar then 0 else length

/-- The length of a word that an opening parenthesis follows. -/
def callLength (text : Text) : Nat :=
  if (text.dropWhile isWordChar).head? = some '(' then wordLength text else 0

/-- The length of the string at the start of a text, and the record afterwards. -/
def stringLength (record : QuoteRecord) (offset : Nat) (c : Char) (rest : Text) :
    Nat × QuoteRecord :=
  match Quote.ofChar? c with
  | none => (0, record)
  | some quote =>
      match record.stringLength? quote offset (c :: rest) with
      | (some length, after) => (length, after)
      | (none, after) => (quote.openLength rest, after)

/-- How many characters a rule takes of a text that starts with `c`, at a given offset,
and the record afterwards. -/
def extent (dialect : Dialect) (record : QuoteRecord) (offset : Nat) (c : Char)
    (rest : Text) : ScanRule → Nat × QuoteRecord
  | string => stringLength record offset c rest
  | comment => (commentLength dialect.comments (c :: rest), record)
  | keyword => (wordLengthIf dialect.vocabulary.isKeyword (c :: rest), record)
  | type => (wordLengthIf dialect.vocabulary.isType (c :: rest), record)
  | number => (numberLength (c :: rest), record)
  | functionCall => (callLength (c :: rest), record)
  | identifier => (wordLength (c :: rest), record)
  | punctuation => (if isWordChar c || isAsciiBlank c then 0 else 1, record)
  | whitespace => (Text.countWhile isAsciiBlank (c :: rest), record)

/-- Whether a rule looks at the next character itself, and not only at runs of
characters that may be empty. -/
def readsNext : ScanRule → Bool
  | string | punctuation => true
  | _ => false

/-- Where a rule asked about one place of a source would end, with no failures on
record; the place itself when it does not apply.  There is no answer past the end of
the source for a rule that looks at the next character. -/
def endAt? (dialect : Dialect) (source : Text) (offset : Nat) (rule : ScanRule) :
    Option Nat :=
  match source.drop offset with
  | [] => if rule.readsNext then none else some offset
  | c :: rest => some (offset + (rule.extent dialect .empty offset c rest).1)

end ScanRule

end Highlighter
