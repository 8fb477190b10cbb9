import Highlighter.Toml.Values

/-!
# TOML documents

A document is a sequence of lines, each with a pair, the header of a table, the header
of one more table in a list, or nothing.  A pair belongs to the table of the last
header.  The first fault refuses the whole document.
-/

namespace Highlighter.Toml

open Config (Value Table)

/-- A document as far as it is read. -/
structure Document where
  content : Table
  marks : Marks
  /-- Tables that dotted keys have led through since the last header; they count as
  declared from the next header on. -/
  ledThrough : List Key
  /-- The key of the last header. -/
  header : Key

namespace Document

/-- A document of which nothing is read. -/
def empty : Document :=
  ⟨[], .none, [], []⟩

/-- Count the tables that keys have led through as declared. -/
def settle (document : Document) : Document :=
  { document with
    marks := document.ledThrough.foldl Marks.declare document.marks
    ledThrough := [] }

/-- The parts of a dotted key that lead through a table, below a header. -/
def passages (header key : Key) : List Key :=
  (List.range (key.length - 1)).map fun index => header ++ key.take (index + 1)

/-- Add a pair below the last header. -/
def addPair (document : Document) (key : Key) (value : Value) : Except Fault Document := do
  let passed := passages document.header key
  match passed.find? document.marks.isDeclared with
  | some declared => .error (.redefined declared)
  | none =>
      let parent := document.header ++ key.dropLast
      if document.marks.isComplete parent then .error (.complete parent)
      else
        let content ← changeAt true
          (define .overwritten (key.getLast?.getD "") value) parent document.content
        let marks :=
          if isCompleteValue value then document.marks.close (document.header ++ key)
          else document.marks
        .ok { document with
          content := content
          marks := marks
          ledThrough := document.ledThrough ++ passed }

/-- Open the table of a header. -/
def openTable (document : Document) (key : Key) : Except Fault Document := do
  if document.marks.isDeclared key || document.marks.isComplete key then
    .error (.declaredTwice key)
  else
    let content ← changeAt true Except.ok key document.content
    .ok { document with
      content := content, marks := document.marks.declare key, header := key }

/-- Open one more table in the list of a header. -/
def openListed (document : Document) (key : Key) : Except Fault Document := do
  if document.marks.isComplete key then .error (.complete key)
  else
    let content ← changeAt true (appendTable (key.getLast?.getD "")) key.dropLast
      document.content
    .ok { document with
      content := content, marks := (document.marks.reopen key).declare key, header := key }

/-- Read a header whose opening brackets are read: its key, what it does, and the
brackets at its end. -/
def readHeader (act : Key → Except Fault Document) (closing : Text) (unclosed : Fault) :
    Reader Document := fun text => do
  let (key, after) ← readKey (skipBlanks text)
  let document ← (act key).mapError fun fault => ⟨fault, after⟩
  if closing.isPrefixOf after then .ok (document, after.drop closing.length)
  else .error ⟨unclosed, after⟩

/-- Read one statement, which starts with the first character of the text. -/
def readStatement (document : Document) : Reader Document := fun text =>
  match text with
  | [] => .ok (document, [])
  | c :: rest =>
      if startsKey c then do
        let (key, after) ← readPairKey text
        let (value, after) ← readValue after
        let document ← (document.addPair key value).mapError fun fault => ⟨fault, after⟩
        .ok (document, skipBlanks after)
      else if c = '[' then do
        let settled := document.settle
        let (document, after) ←
          match rest with
          | '[' :: rest => readHeader settled.openListed [']', ']'] .expectedArrayEnd rest
          | _ => readHeader settled.openTable [']'] .expectedTableEnd rest
        .ok (document, skipBlanks after)
      else if c = '#' then .ok (document, text)
      else .error ⟨.invalidStatement, text⟩

/-- Read lines, given a bound on their number. -/
def readLines : Nat → Document → Text → Except Rejection Document
  | 0, document, _ => .ok document
  | fuel + 1, document, text =>
      match skipBlanks text with
      | [] => .ok document
      | '\n' :: rest => readLines fuel document rest
      | line => do
          let (document, after) ← readStatement document line
          match ← skipComment after with
          | [] => .ok document
          | '\n' :: rest => readLines fuel document rest
          | after => .error ⟨.expectedLineEnd, after⟩

end Document

/-- The table of a document, whose lines end with line feeds. -/
def read (text : Text) : Except Rejection Table :=
  (Document.readLines (text.length + 1) .empty text).map (·.content)

end Highlighter.Toml
