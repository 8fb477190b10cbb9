import Highlighter.Config.Value
import Highlighter.Decimal.Shortest
import Highlighter.Text.Quoted

/-!
# Showing configuration values

Messages about a bad value show it in full: texts as quoted literals, numbers as the
shortest text that reads back, lists and tables with their items in order, and dates
and times by their parts, of which the last ones are left out when they are zero.

Two kinds of value are not shown: an integer with more digits than the limit, and a
list or table inside too many others.  `Value.obstacle?` tells what is in the way; where
nothing is, the text is the one of `Value.display`.
-/

namespace Highlighter.Config

/-- Texts with a comma and a blank between each two. -/
def commaSeparated (parts : List Text) : Text :=
  [',', ' '].intercalate parts

/-- A name with its arguments in parentheses. -/
def application (name : String) (arguments : List Text) : Text :=
  name.toList ++ '(' :: commaSeparated arguments ++ [')']

namespace ClockTime

/-- The parts of a time that are shown: seconds and microseconds only as far as
something other than zero follows. -/
def shownParts (time : ClockTime) : List Nat :=
  if time.microsecond ≠ 0 then [time.hour, time.minute, time.second, time.microsecond]
  else if time.second ≠ 0 then [time.hour, time.minute, time.second]
  else [time.hour, time.minute]

end ClockTime

/-- The parts of a date. -/
def Date.parts (date : Date) : List Nat :=
  [date.year, date.month, date.day]

/-- An offset from universal time.  A negative one counts from the day before. -/
def displayZone (zone : ZoneOffset) : Text :=
  let seconds := "seconds=".toList
  if zone = 0 then "datetime.timezone.utc".toList
  else
    let difference :=
      if 0 < zone then
        application "datetime.timedelta" [seconds ++ Text.signedDecimal (zone * 60)]
      else
        application "datetime.timedelta"
          ["days=-1".toList, seconds ++ Text.signedDecimal (86400 + zone * 60)]
    application "datetime.timezone" [difference]

/-- The message about an integer with too many digits, with what is known of it. -/
def digitMessage (known : Text) : Text :=
  "Exceeds the limit (".toList ++ Text.decimal digitLimit ++
    " digits) for integer string conversion".toList ++ known ++
    "; use sys.set_int_max_str_digits() to increase the limit".toList

/-- The message about too much nesting. -/
def nestingMessage : Text :=
  "maximum recursion depth exceeded".toList

/-- What is in the way of showing a value. -/
inductive Obstacle where
  | longInteger
  | deepNesting
  deriving DecidableEq, Repr

/-- The message of an obstacle. -/
def Obstacle.message : Obstacle → Text
  | longInteger => digitMessage []
  | deepNesting => nestingMessage ++ " while getting the repr of an object".toList

/-- How deep values are shown: a value, its items, their items, and so on.

Showing a level is a call.  The 3.11 runtime lets a thousand be open at once, and eight are open
where a theme shows a colour, some of them around the command line.  So the number was measured,
and it belongs to that runtime and to a caller with as many calls open. -/
def shownDepth : Nat :=
  992

mutual

/-- The first obstacle in a value of which so many levels are shown. -/
def Value.obstacle? : Nat → Value → Option Obstacle
  | 0, _ => some .deepNesting
  | _ + 1, .integer value =>
      if Nat.pow 10 digitLimit ≤ value.natAbs then some .longInteger else none
  | depth + 1, .list items => itemsObstacle? depth items
  | depth + 1, .table entries => entriesObstacle? depth entries
  | _ + 1, _ => none

/-- The first obstacle in the items of a list. -/
def itemsObstacle? : Nat → List Value → Option Obstacle
  | _, [] => none
  | depth, item :: later => (item.obstacle? depth).or (itemsObstacle? depth later)

/-- The first obstacle in the entries of a table. -/
def entriesObstacle? : Nat → List (String × Value) → Option Obstacle
  | _, [] => none
  | depth, (_, value) :: later =>
      (value.obstacle? depth).or (entriesObstacle? depth later)

end

mutual

/-- The text that shows a value. -/
def Value.display : Value → Text
  | .nothing => "None".toList
  | .flag true => "True".toList
  | .flag false => "False".toList
  | .integer value => Text.signedDecimal value
  | .float value => value.toText
  | .text value => Quoted.literal value
  | .date value => application "datetime.date" (value.parts.map Text.decimal)
  | .time value => application "datetime.time" (value.shownParts.map Text.decimal)
  | .moment date time zone =>
      application "datetime.datetime"
        ((date.parts ++ time.shownParts).map Text.decimal ++
          (zone.map fun offset => "tzinfo=".toList ++ displayZone offset).toList)
  | .list items => '[' :: commaSeparated (displayItems items) ++ [']']
  | .table entries => '\x7b' :: commaSeparated (displayEntries entries) ++ ['\x7d']

/-- The texts that show the items of a list. -/
def displayItems : List Value → List Text
  | [] => []
  | item :: later => item.display :: displayItems later

/-- The texts that show the entries of a table. -/
def displayEntries : List (String × Value) → List Text
  | [] => []
  | (name, value) :: later =>
      (Quoted.literal name ++ ':' :: ' ' :: value.display) :: displayEntries later

end

end Highlighter.Config
