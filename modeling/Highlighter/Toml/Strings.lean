import Highlighter.Toml.Fault

/-!
# Blanks, comments, strings and keys of TOML

The parts of a document below its values.  A literal string ends at its first mark; in
a basic string a backslash escapes.  Both forms may run over several lines between
three marks.
-/

namespace Highlighter.Toml

/-- A blank inside a line. -/
def isInlineBlank (c : Char) : Bool :=
  c == ' ' || c == '\t'

/-- A blank inside a line or a line end. -/
def isFiller (c : Char) : Bool :=
  isInlineBlank c || c == '\n'

/-- A control character other than the tab, which no line may hold. -/
def isForbidden (c : Char) : Bool :=
  (c.toNat < 0x20 && c != '\t') || c.toNat == 0x7F

/-- A control character that no string over several lines may hold. -/
def isForbiddenInBlock (c : Char) : Bool :=
  isForbidden c && c != '\n'

/-- The text without the blanks of the line at its start. -/
def skipBlanks (text : Text) : Text :=
  text.dropWhile isInlineBlank

/-- Refuse a stretch of text at its first forbidden character. -/
def checked (forbidden : Char → Bool) (stretch text : Text) : Reader Text := fun rest =>
  match stretch.find? forbidden with
  | some c => .error ⟨.invalidCharacter c, text.dropWhile (!forbidden ·)⟩
  | none => .ok (stretch, rest)

/-- Read up to a mark, which is left out. -/
def readUntil (mark : Text) (forbidden : Char → Bool) : Reader Text := fun text =>
  match Text.lengthThrough? mark text with
  | none => .error ⟨.missing mark, []⟩
  | some length =>
      checked forbidden (text.take (length - mark.length)) text (text.drop length)

/-- The text after a comment, if one starts here. -/
def skipComment (text : Text) : Except Rejection Text :=
  match text with
  | '#' :: rest =>
      let length := Text.lineLength rest
      (checked isForbidden (rest.take length) rest (rest.drop length)).map (·.2)
  | _ => .ok text

/-- The text after blanks, line ends and comments, given a bound on their number. -/
def skipFillerWithin : Nat → Text → Except Rejection Text
  | 0, text => .ok text
  | fuel + 1, text => do
      let after ← skipComment (text.dropWhile isFiller)
      if after.length = text.length then .ok after else skipFillerWithin fuel after

/-- The text after blanks, line ends and comments. -/
def skipFiller (text : Text) : Except Rejection Text :=
  skipFillerWithin (text.length + 1) text

/-! ## Strings -/

/-- The number that digits of a base write, if all are digits. -/
def numberIn (base : Nat) (value? : Char → Option Nat) (digits : Text) : Option Nat :=
  digits.foldlM (fun number c => (value? c).map (number * base + ·)) 0

/-- The character whose code point is written in the next digits of base sixteen. -/
def readCodePoint (width : Nat) : Reader Text := fun text =>
  let digits := text.take width
  match if digits.length = width then numberIn 16 hexValue? digits else none with
  | none => .error ⟨.invalidHex, text⟩
  | some code =>
      if code.isValidChar then .ok ([Char.ofNat code], text.drop width)
      else .error ⟨.notScalar, text.drop width⟩

/-- The character of an escape letter. -/
def escaped? : Char → Option Char
  | 'b' => some '\x08'
  | 't' => some '\t'
  | 'n' => some '\n'
  | 'f' => some '\x0c'
  | 'r' => some '\r'
  | '\x22' => some '\x22'
  | '\\' => some '\\'
  | _ => none

/-- The text after a line end that a backslash escapes, which takes the blanks and line
ends after it along.  Before the line end only blanks may stand. -/
def readContinuation : Reader Text := fun text =>
  match skipBlanks text with
  | [] => .ok ([], [])
  | '\n' :: rest => .ok ([], rest.dropWhile isFiller)
  | rest => .error ⟨.strayBackslash, rest⟩

/-- What an escape stands for, read after its backslash. -/
def readEscape (block : Bool) : Reader Text := fun text =>
  match text with
  | [] => .error ⟨.strayBackslash, []⟩
  | c :: rest =>
      if block && isFiller c then readContinuation text
      else if c = 'u' then readCodePoint 4 rest
      else if c = 'U' then readCodePoint 8 rest
      else
        match escaped? c with
        | some meant => .ok ([meant], rest)
        | none => .error ⟨.strayBackslash, rest⟩

/-- The rest of a basic string, given a bound on its length.  In a block a double quote
is part of the string unless two more follow it. -/
def readBasicWithin (block : Bool) : Nat → Reader Text
  | 0, text => .error ⟨.unterminatedString, text⟩
  | fuel + 1, text =>
      match text with
      | [] => .error ⟨.unterminatedString, []⟩
      | c :: rest =>
          if c = '\x22' && !block then .ok ([], rest)
          else if c = '\x22' && ['\x22', '\x22'].isPrefixOf rest then .ok ([], rest.drop 2)
          else if c = '\\' then do
            let (meant, after) ← readEscape block rest
            let (later, after) ← readBasicWithin block fuel after
            .ok (meant ++ later, after)
          else if c ≠ '\x22' && (if block then isForbiddenInBlock c else isForbidden c) then
            .error ⟨.illegalCharacter c, text⟩
          else do
            let (later, after) ← readBasicWithin block fuel rest
            .ok (c :: later, after)

/-- The rest of a basic string, after its opening mark. -/
def readBasic (block : Bool) : Reader Text := fun text =>
  readBasicWithin block (text.length + 1) text

/-- Up to two further marks directly after the end of a block belong to it. -/
def withExtraMarks (mark : Char) (held text : Text) : Text × Text :=
  let extra := min 2 (Text.countWhile (· == mark) text)
  (held ++ List.replicate extra mark, text.drop extra)

/-- A block, after its three opening marks.  A line end directly after them is left
out. -/
def readBlock (mark : Char) : Reader Text := fun text =>
  let body := if text.head? = some '\n' then text.drop 1 else text
  let read :=
    if mark = '\x27' then readUntil ['\x27', '\x27', '\x27'] isForbiddenInBlock body
    else readBasic true body
  read.map fun (held, rest) => withExtraMarks mark held rest

/-- A string on one line, after its opening mark. -/
def readLineString (mark : Char) : Reader Text := fun text =>
  if mark = '\x27' then readUntil ['\x27'] isForbidden text else readBasic false text

/-- A string of any form, after its first mark. -/
def readString (mark : Char) : Reader Text := fun text =>
  if [mark, mark].isPrefixOf text then readBlock mark (text.drop 2)
  else readLineString mark text

/-! ## Keys -/

/-- A character of a key without quotes. -/
def isBareKeyChar (c : Char) : Bool :=
  c.isAlphanum || c == '-' || c == '_'

/-- Whether a key starts with a character. -/
def startsKey (c : Char) : Bool :=
  isBareKeyChar c || c == '\x22' || c == '\x27'

/-- One part of a key. -/
def readKeyPart : Reader String := fun text =>
  match text with
  | [] => .error ⟨.invalidKeyStart, []⟩
  | c :: rest =>
      if isBareKeyChar c then
        .ok (String.ofList (text.takeWhile isBareKeyChar), text.dropWhile isBareKeyChar)
      else if c = '\x22' ∨ c = '\x27' then
        (readLineString c rest).map fun (held, after) => (String.ofList held, after)
      else .error ⟨.invalidKeyStart, text⟩

/-- A key with the blanks after it, given a bound on the number of its parts. -/
def readKeyWithin : Nat → Reader Key
  | 0, text => .error ⟨.invalidKeyStart, text⟩
  | fuel + 1, text => do
      let (part, after) ← readKeyPart text
      match skipBlanks after with
      | '.' :: rest => do
          let (later, after) ← readKeyWithin fuel (skipBlanks rest)
          .ok (part :: later, after)
      | rest => .ok ([part], rest)

/-- A key with the blanks after it. -/
def readKey : Reader Key := fun text =>
  readKeyWithin (text.length + 1) text

end Highlighter.Toml
