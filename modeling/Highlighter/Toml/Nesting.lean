import Highlighter.Toml.Fault

/-!
# Tables within tables

A dotted key leads from a table to one inside it, and the tables that are missing on
the way are made.  Some tables may not be opened again: `declared` keys have had their
table header or have been led through, and `complete` keys hold a value that was
written as a whole.
-/

namespace Highlighter.Toml

open Config (Value Table)

/-- Change the table that a key leads to.  A list of tables stands for its last one if
`entersLists` says so; any other value is in the way. -/
def changeAt (entersLists : Bool) (change : Table → Except Fault Table) :
    Key → Table → Except Fault Table
  | [], table => change table
  | name :: later, table =>
      match table.get? name with
      | none =>
          (changeAt entersLists change later []).map fun inner =>
            table.set name (.table inner)
      | some (.table inner) =>
          (changeAt entersLists change later inner).map fun changed =>
            table.set name (.table changed)
      | some (.list items) =>
          match if entersLists then items.getLast? else none with
          | some (.table inner) =>
              (changeAt entersLists change later inner).map fun changed =>
                table.set name (.list (items.dropLast ++ [.table changed]))
          | _ => .error .overwritten
      | some _ => .error .overwritten

/-- Give a new name a value. -/
def define (taken : Fault) (name : String) (value : Value) (table : Table) :
    Except Fault Table :=
  if (table.get? name).isSome then .error taken else .ok (table.set name value)

/-- Start another table in the list of a name. -/
def appendTable (name : String) (table : Table) : Except Fault Table :=
  match table.get? name with
  | none => .ok (table.set name (.list [.table []]))
  | some (.list items) => .ok (table.set name (.list (items ++ [.table []])))
  | some _ => .error .overwritten

/-- Whether a value is written as a whole and may not be added to. -/
def isCompleteValue : Value → Bool
  | .list _ | .table _ => true
  | _ => false

/-- Which keys may not be opened again. -/
structure Marks where
  declared : List Key
  complete : List Key
  deriving DecidableEq, Repr

namespace Marks

/-- No key is closed. -/
def none : Marks :=
  ⟨[], []⟩

/-- Whether a key was declared. -/
def isDeclared (marks : Marks) (key : Key) : Bool :=
  marks.declared.contains key

/-- Whether a key lies in a value that is complete. -/
def isComplete (marks : Marks) (key : Key) : Bool :=
  marks.complete.any fun (closed : Key) => closed.isPrefixOf key

/-- Declare a key. -/
def declare (marks : Marks) (key : Key) : Marks :=
  { marks with declared := key :: marks.declared }

/-- Note that the value of a key is complete. -/
def close (marks : Marks) (key : Key) : Marks :=
  { marks with complete := key :: marks.complete }

/-- Open everything at and below a key again. -/
def reopen (marks : Marks) (key : Key) : Marks where
  declared := marks.declared.filter fun held => !key.isPrefixOf held
  complete := marks.complete.filter fun held => !key.isPrefixOf held

end Marks

end Highlighter.Toml
