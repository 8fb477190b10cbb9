import Highlighter.Decimal.Binary64

/-!
# Configuration values

The values a configuration file or a colour override can hold.  A table keeps its
entries in the order in which their names were first written.
-/

namespace Highlighter.Config

/-- A day of the calendar. -/
structure Date where
  year : Nat
  month : Nat
  day : Nat
  deriving DecidableEq, Repr

/-- A time of day. -/
structure ClockTime where
  hour : Nat
  minute : Nat
  second : Nat
  microsecond : Nat
  deriving DecidableEq, Repr

/-- How far a clock is ahead of universal time, in minutes. -/
abbrev ZoneOffset := Int

/-- A configuration value. -/
inductive Value where
  /-- The absence of a value, which no configuration file can write. -/
  | nothing
  | flag (value : Bool)
  | integer (value : Int)
  | float (value : Binary64)
  | text (value : String)
  | date (value : Date)
  | time (value : ClockTime)
  /-- A day and a time, perhaps at a known distance from universal time. -/
  | moment (date : Date) (time : ClockTime) (zone : Option ZoneOffset)
  | list (items : List Value)
  | table (entries : List (String × Value))
  deriving Inhabited, Repr

/-- The entries of a table, in order. -/
abbrev Table := List (String × Value)

/-- The most decimal digits of an integer that is read or shown. -/
def digitLimit : Nat :=
  4300

namespace Table

/-- The value of a name. -/
def get? (table : Table) (name : String) : Option Value :=
  table.lookup name

/-- Give a name a value.  A name that is there keeps its place. -/
def set (name : String) (value : Value) : Table → Table
  | [] => [(name, value)]
  | (other, held) :: later =>
      if other = name then (name, value) :: later
      else (other, held) :: set name value later

/-- Setting a name changes the value of that name and of no other. -/
theorem get?_set (table : Table) (name asked : String) (value : Value) :
    (table.set name value).get? asked =
      if asked = name then some value else table.get? asked := by
  induction table with
  | nil =>
      by_cases same : asked = name
      · subst same
        simp [set, get?]
      · have differs : (asked == name) = false := by simpa using same
        simp [set, get?, List.lookup_cons, differs, same]
  | cons entry later inductionHypothesis =>
      obtain ⟨other, held⟩ := entry
      simp only [get?] at inductionHypothesis
      by_cases found : other = name
      · subst found
        by_cases same : asked = other
        · subst same
          simp [set, get?]
        · have differs : (asked == other) = false := by simpa using same
          simp [set, get?, List.lookup_cons, differs, same]
      · by_cases same : asked = other
        · subst same
          simp [set, get?, found]
        · have differs : (asked == other) = false := by simpa using same
          simp [set, get?, found, List.lookup_cons, differs, inductionHypothesis]

end Table

end Highlighter.Config
