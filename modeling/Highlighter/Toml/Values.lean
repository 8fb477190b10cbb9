import Highlighter.Toml.Nesting
import Highlighter.Toml.Scalars

/-!
# Values of TOML

An array holds values over any number of lines; an inline table holds pairs on one
line.  Both nest, so the three readers call each other, bounded by a number that every
call lowers.

Nesting has a limit.  A value has some room around it, of which an array leaves its
items less and an inline table its values less still; where the room is not enough to
read one of them, the document is refused.
-/

namespace Highlighter.Toml

open Config (Value Table)

/-- A value that is neither a string nor a collection. -/
def readScalar : Reader Value := fun text =>
  match readMoment? text with
  | some (.ok value, rest) => .ok (value, rest)
  | some (.error fault, _) => .error ⟨fault, text⟩
  | none =>
      match readTime? text with
      | some (time, rest) => .ok (.time time, rest)
      | none =>
          match readMarked? text with
          | some result => .ok result
          | none =>
              match readDecimal? text with
              | some (.ok value, rest) => .ok (value, rest)
              | some (.error fault, _) => .error ⟨fault, text⟩
              | none =>
                  match readFloatWord? text with
                  | some result => .ok result
                  | none => .error ⟨.invalidValue, text⟩

/-- The key of a pair, with the equals sign and the blanks after it. -/
def readPairKey : Reader Key := fun text => do
  let (key, after) ← readKey text
  match after with
  | '=' :: rest => .ok (key, skipBlanks rest)
  | _ => .error ⟨.expectedEquals, after⟩

/-- An inline table as far as it is read, with the keys inside it that are complete. -/
structure InlineTable where
  entries : Table
  marks : Marks

/-- Add a pair to an inline table. -/
def InlineTable.add (inline : InlineTable) (key : Key) (value : Value) :
    Except Fault InlineTable :=
  if inline.marks.isComplete key then .error (.complete key)
  else
    let name := key.getLast?.getD ""
    let marks := if isCompleteValue value then inline.marks.close key else inline.marks
    (changeAt false (define (.duplicateName name) name value) key.dropLast
      inline.entries).map fun entries => ⟨entries, marks⟩

/-- The room of a value that no other is around.

Room is what the call stack leaves.  The 3.11 runtime lets a thousand calls be open at once, and
thirteen are open where the value of a pair is read, some of them around the command line.  So
the number was measured: a caller with more calls open leaves less room, and later runtimes
count in another way. -/
def outermostRoom : Nat :=
  987

/-- The room of the items of an array: two calls less. -/
def roomForItems (room : Nat) : Except Fault Nat :=
  if room < 3 then .error .deepNesting else .ok (room - 2)

/-- The room of the values of an inline table: three calls less. -/
def roomForPairs (room : Nat) : Except Fault Nat :=
  if room < 5 then .error .deepNesting else .ok (room - 3)

mutual

/-- A value. -/
def readValueWithin (room : Nat) : Nat → Reader Value
  | 0, text => .error ⟨.invalidValue, text⟩
  | fuel + 1, text =>
      match text with
      | [] => .error ⟨.invalidValue, []⟩
      | c :: rest =>
          if c = '\x22' ∨ c = '\x27' then
            (readString c rest).map fun (held, after) => (.text (String.ofList held), after)
          else if "true".toList.isPrefixOf text then .ok (.flag true, text.drop 4)
          else if "false".toList.isPrefixOf text then .ok (.flag false, text.drop 5)
          else if c = '[' then do
            let inner ← (roomForItems room).mapError fun fault => ⟨fault, text⟩
            match ← skipFiller rest with
            | ']' :: after => .ok (.list [], after)
            | after =>
                (readItemsWithin inner fuel after).map fun (items, after) =>
                  (.list items, after)
          else if c = '\x7b' then do
            let inner ← (roomForPairs room).mapError fun fault => ⟨fault, text⟩
            match skipBlanks rest with
            | '\x7d' :: after => .ok (.table [], after)
            | after =>
                (readPairsWithin inner ⟨[], .none⟩ fuel after).map fun (entries, after) =>
                  (.table entries, after)
          else readScalar text

/-- The items of an array up to its end. -/
def readItemsWithin (room : Nat) : Nat → Reader (List Value)
  | 0, text => .error ⟨.unclosedArray, text⟩
  | fuel + 1, text => do
      let (item, after) ← readValueWithin room fuel text
      match ← skipFiller after with
      | ']' :: after => .ok ([item], after)
      | ',' :: after =>
          match ← skipFiller after with
          | ']' :: after => .ok ([item], after)
          | after => do
              let (later, after) ← readItemsWithin room fuel after
              .ok (item :: later, after)
      | after => .error ⟨.unclosedArray, after⟩

/-- The pairs of an inline table up to its end. -/
def readPairsWithin (room : Nat) (inline : InlineTable) : Nat → Reader Table
  | 0, text => .error ⟨.unclosedTable, text⟩
  | fuel + 1, text => do
      let (key, after) ← readPairKey text
      let (value, after) ← readValueWithin room fuel after
      let inline ← (inline.add key value).mapError fun fault => ⟨fault, after⟩
      match skipBlanks after with
      | '\x7d' :: after => .ok (inline.entries, after)
      | ',' :: after => readPairsWithin room inline fuel (skipBlanks after)
      | after => .error ⟨.unclosedTable, after⟩

end

/-- A value.  Every second call reads at least one character, so twice the length of the
text is bound enough. -/
def readValue : Reader Value := fun text =>
  readValueWithin outermostRoom (2 * text.length + 2) text

end Highlighter.Toml
