import Highlighter.Toml.Strings

/-!
# Numbers, dates and times of TOML

The digits of a number may be parted by single underscores.  An integer has an
optional sign and no leading zero, or a mark for base sixteen, eight or two and no
sign; a fraction or an exponent makes a floating-point number.  Dates and times have
fixed places, and a date must be one of the calendar.
-/

namespace Highlighter.Toml

open Config (Value Date ClockTime ZoneOffset)

/-! ## Numbers -/

/-- The digits at the start of a text, each after an optional underscore, and the rest. -/
def moreDigits (isDigit : Char → Bool) : Text → Text × Text
  | [] => ([], [])
  | [c] => if isDigit c then ([c], []) else ([], [c])
  | c :: d :: rest =>
      if isDigit c then
        let (digits, after) := moreDigits isDigit (d :: rest)
        (c :: digits, after)
      else if c = '_' ∧ isDigit d then
        let (digits, after) := moreDigits isDigit rest
        (d :: digits, after)
      else ([], c :: d :: rest)

/-- Digits of which the first has no underscore before it. -/
def readDigits? (isDigit : Char → Bool) (text : Text) : Option (Text × Text) :=
  if text.head?.any isDigit then some (moreDigits isDigit text) else none

/-- The value of a digit of base ten. -/
def decimalValue? (c : Char) : Option Nat :=
  if c.isDigit then some (c.toNat - 0x30) else none

/-- The number that decimal digits write. -/
def decimalNumber (digits : Text) : Nat :=
  (numberIn 10 decimalValue? digits).getD 0

/-- The bases that a letter after a zero marks, with the values of their digits. -/
def bases : List (Char × Nat × (Char → Option Nat)) :=
  let below (base : Nat) (c : Char) : Option Nat := (hexValue? c).filter (· < base)
  [('x', 16, hexValue?), ('b', 2, below 2), ('o', 8, below 8)]

/-- An integer in one of the marked bases. -/
def readMarked? : Text → Option (Value × Text)
  | '0' :: letter :: rest => do
      let (base, value?) ← bases.lookup letter
      let (digits, after) ← readDigits? (fun c => (value? c).isSome) rest
      let number ← numberIn base value? digits
      some (.integer number, after)
  | _ => none

/-- A sign, if there is one: whether it is a minus, and the rest. -/
def readSign : Text → Bool × Text
  | '+' :: rest => (false, rest)
  | '-' :: rest => (true, rest)
  | text => (false, text)

/-- The digits before the point. -/
def readWhole? : Text → Option (Text × Text)
  | '0' :: rest => some (['0'], rest)
  | text => readDigits? Char.isDigit text

/-- The digits after a point, if there are any. -/
def readFraction? : Text → Option (Text × Text)
  | '.' :: rest => readDigits? Char.isDigit rest
  | _ => none

/-- The power of ten of an exponent, if there is one. -/
def readExponent? : Text → Option (Int × Text)
  | c :: rest =>
      if c = 'e' ∨ c = 'E' then do
        let (negative, unsigned) := readSign rest
        let (digits, after) ← readDigits? Char.isDigit unsigned
        let power : Int := decimalNumber digits
        some (if negative then -power else power, after)
      else none
  | [] => none

/-- A number in base ten.  The fault, if any, belongs to the start of the number. -/
def readDecimal? (text : Text) : Option (Except Fault Value × Text) := do
  let (negative, unsigned) := readSign text
  let (whole, afterWhole) ← readWhole? unsigned
  let fraction := readFraction? afterWhole
  let afterFraction := (fraction.map (·.2)).getD afterWhole
  let exponent := readExponent? afterFraction
  let after := (exponent.map (·.2)).getD afterFraction
  if fraction.isNone && exponent.isNone then
    let number : Int := decimalNumber whole
    if Config.digitLimit < whole.length then some (.error (.oversizedInteger whole.length), after)
    else some (.ok (.integer (if negative then -number else number)), after)
  else
    let places := (fraction.map (·.1)).getD []
    let power := (exponent.map (·.1)).getD 0
    let number := Binary64.ofDecimal negative (decimalNumber (whole ++ places))
      (power - places.length)
    some (.ok (.float number), after)

/-- The floating-point numbers that are written as words. -/
def floatWords : List (Text × Binary64) :=
  [("inf".toList, .infinite false), ("nan".toList, .nan), ("-inf".toList, .infinite true),
    ("+inf".toList, .infinite false), ("-nan".toList, .nan), ("+nan".toList, .nan)]

/-- A floating-point number that is written as a word. -/
def readFloatWord? (text : Text) : Option (Value × Text) :=
  (floatWords.find? fun (word, _) => word.isPrefixOf text).map fun (word, number) =>
    (.float number, text.drop word.length)

/-! ## Dates and times -/

/-- Exactly `count` digits that write a number within bounds. -/
def readFixed? (count low high : Nat) (text : Text) : Option (Nat × Text) := do
  let digits := text.take count
  let number ← if digits.length = count then numberIn 10 decimalValue? digits else none
  if low ≤ number ∧ number ≤ high then some (number, text.drop count) else none

/-- The text after a given character. -/
def after? (mark : Char) : Text → Option Text
  | [] => none
  | c :: rest => if c = mark then some rest else none

/-- A date by its places. -/
def readDate? (text : Text) : Option (Date × Text) := do
  let (year, rest) ← readFixed? 4 0 9999 text
  let (month, rest) ← readFixed? 2 1 12 (← after? '-' rest)
  let (day, rest) ← readFixed? 2 1 31 (← after? '-' rest)
  some (⟨year, month, day⟩, rest)

/-- The microseconds of a fraction of a second, whose digits after the sixth do not
count, and the rest; zero where no fraction is written. -/
def readMicroseconds (text : Text) : Nat × Text :=
  let digits := (text.drop 1).takeWhile Char.isDigit
  if text.head? = some '.' ∧ digits ≠ [] then
    let places := digits.take 6
    (decimalNumber places * Nat.pow 10 (6 - places.length), text.drop (digits.length + 1))
  else (0, text)

/-- A time of day. -/
def readTime? (text : Text) : Option (ClockTime × Text) := do
  let (hour, rest) ← readFixed? 2 0 23 text
  let (minute, rest) ← readFixed? 2 0 59 (← after? ':' rest)
  let (second, rest) ← readFixed? 2 0 59 (← after? ':' rest)
  let (microsecond, rest) := readMicroseconds rest
  some (⟨hour, minute, second, microsecond⟩, rest)

/-- An offset from universal time. -/
def readZone? : Text → Option (ZoneOffset × Text)
  | [] => none
  | c :: rest =>
      if c = 'Z' ∨ c = 'z' then some (0, rest)
      else if c = '+' ∨ c = '-' then do
        let (hours, rest) ← readFixed? 2 0 23 rest
        let (minutes, rest) ← readFixed? 2 0 59 (← after? ':' rest)
        let offset : Int := hours * 60 + minutes
        some (if c = '-' then -offset else offset, rest)
      else none

/-- The time after a date, with its offset if it has one. -/
def readDayTime? : Text → Option ((ClockTime × Option ZoneOffset) × Text)
  | [] => none
  | c :: rest =>
      if c = 'T' ∨ c = 't' ∨ c = ' ' then do
        let (time, rest) ← readTime? rest
        match readZone? rest with
        | some (zone, rest) => some ((time, some zone), rest)
        | none => some ((time, none), rest)
      else none

/-- Whether a year has a day more than others. -/
def isLeapYear (year : Nat) : Bool :=
  year % 4 == 0 && (year % 100 != 0 || year % 400 == 0)

/-- The number of days of a month. -/
def daysOfMonth (year month : Nat) : Nat :=
  if month = 2 then if isLeapYear year then 29 else 28
  else if month ∈ [4, 6, 9, 11] then 30
  else 31

/-- Whether a date is one of the calendar, which starts with the year one. -/
def isCalendarDate (date : Date) : Bool :=
  1 ≤ date.year && date.day ≤ daysOfMonth date.year date.month

/-- A date with or without a time.  The fault, if any, belongs to its start. -/
def readMoment? (text : Text) : Option (Except Fault Value × Text) := do
  let (date, afterDate) ← readDate? text
  let (value, after) :=
    match readDayTime? afterDate with
    | some ((time, zone), after) => (Value.moment date time zone, after)
    | none => (Value.date date, afterDate)
  some (if isCalendarDate date then .ok value else .error .invalidDate, after)

end Highlighter.Toml
