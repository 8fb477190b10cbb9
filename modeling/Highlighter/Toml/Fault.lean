import Highlighter.Config.Display
import Highlighter.Text.DecimalDigit
import Highlighter.Token.Position

/-!
# Faults in TOML documents

A fault is the reason why a document is refused.  It is noticed at a place, which is
kept as the text that was left there, so that line and column can be counted in the
document.  The message of a fault may quote a key or a character of the document; the
line of a report is the first one that its message names.
-/

namespace Highlighter.Toml

open Config (Value Table)

/-- A dotted key. -/
abbrev Key := List String

/-- Why a document is refused. -/
inductive Fault where
  | invalidStatement
  | invalidValue
  | expectedLineEnd
  | expectedEquals
  | invalidKeyStart
  | expectedTableEnd
  | expectedArrayEnd
  /-- A second declaration of a table. -/
  | declaredTwice (key : Key)
  | overwritten
  /-- A change inside a value that is complete. -/
  | complete (key : Key)
  /-- A dotted key that leads through a table declared elsewhere. -/
  | redefined (key : Key)
  | duplicateName (name : String)
  | unclosedArray
  | unclosedTable
  | strayBackslash
  | invalidHex
  | notScalar
  | unterminatedString
  | illegalCharacter (c : Char)
  | invalidCharacter (c : Char)
  | missing (mark : Text)
  | invalidDate
  /-- A decimal integer with too many digits to be converted. -/
  | oversizedInteger (digits : Nat)
  /-- A list or an inline table inside too many others. -/
  | deepNesting
  deriving DecidableEq, Repr

/-- A key as messages show it: its parts as literals in parentheses, with a comma after
a single one. -/
def displayKey (key : Key) : Text :=
  match key with
  | [name] => '(' :: Quoted.literal name ++ [',', ')']
  | names => '(' :: Config.commaSeparated (names.map Quoted.literal) ++ [')']

/-- The message about an integer with too many digits. -/
def digitMessage (digits : Nat) : Text :=
  Config.digitMessage (": value has ".toList ++ Text.decimal digits ++ " digits".toList)

namespace Fault

/-- The message of a fault, without its place. -/
def message : Fault → Text
  | invalidStatement => "Invalid statement".toList
  | invalidValue => "Invalid value".toList
  | expectedLineEnd => "Expected newline or end of document after a statement".toList
  | expectedEquals => "Expected '=' after a key in a key/value pair".toList
  | invalidKeyStart => "Invalid initial character for a key part".toList
  | expectedTableEnd => "Expected ']' at the end of a table declaration".toList
  | expectedArrayEnd => "Expected ']]' at the end of an array declaration".toList
  | declaredTwice key => "Cannot declare ".toList ++ displayKey key ++ " twice".toList
  | overwritten => "Cannot overwrite a value".toList
  | complete key => "Cannot mutate immutable namespace ".toList ++ displayKey key
  | redefined key => "Cannot redefine namespace ".toList ++ displayKey key
  | duplicateName name => "Duplicate inline table key ".toList ++ Quoted.literal name
  | unclosedArray => "Unclosed array".toList
  | unclosedTable => "Unclosed inline table".toList
  | strayBackslash => "Unescaped '\\' in a string".toList
  | invalidHex => "Invalid hex value".toList
  | notScalar => "Escaped character is not a Unicode scalar value".toList
  | unterminatedString => "Unterminated string".toList
  | illegalCharacter c => "Illegal character ".toList ++ Quoted.encode [c]
  | invalidCharacter c => "Found invalid character ".toList ++ Quoted.encode [c]
  | missing mark => "Expected ".toList ++ Quoted.encode mark
  | invalidDate => "Invalid date or datetime".toList
  | oversizedInteger digits => digitMessage digits
  | deepNesting => Config.nestingMessage

end Fault

/-- A fault with the text that was left where it was noticed. -/
structure Rejection where
  fault : Fault
  rest : Text
  deriving DecidableEq, Repr

/-- A step of reading: a result with the text that is left after it. -/
abbrev Reader (α : Type) := Text → Except Rejection (α × Text)

namespace Rejection

/-- The place at which a document was refused; none at its end. -/
def position? (rejection : Rejection) (document : Text) : Option Position :=
  if rejection.rest.isEmpty then none
  else some (.after (document.take (document.length - rejection.rest.length)))

/-- The message of a fault with its place in the document. -/
def message (rejection : Rejection) (document : Text) : Text :=
  rejection.fault.message ++
    match rejection.position? document with
    | none => " (at end of document)".toList
    | some position =>
        " (at line ".toList ++ Text.decimal position.line ++ ", column ".toList ++
          Text.decimal position.column ++ [')']

end Rejection

/-- The digits after the first mention of a line in a message. -/
def lineDigits? : Text → Option (List Nat)
  | [] => none
  | c :: rest =>
      let mention := "at line ".toList
      let digits :=
        (((c :: rest).drop mention.length).map digitValue?).takeWhile Option.isSome
      if mention.isPrefixOf (c :: rest) && !digits.isEmpty then
        some (digits.filterMap id)
      else lineDigits? rest

/-- The number that decimal digits write. -/
def numberOfDigits (digits : List Nat) : Nat :=
  digits.foldl (fun number digit => number * 10 + digit) 0

end Highlighter.Toml
