import ArenaStandings.Decimal.Numeral

/-!
# Dates

A `Date` is a day of the Gregorian calendar in the years from 0 to 9999. `Date.take` reads one from
the start of a text, in the form `2024-02-29`, and a `Flaw` says what is wrong with a text or a
number that stands for no day.
-/

namespace ArenaStandings

namespace Calendar

/-- Why a text or a number stands for no day or moment. -/
inductive Flaw
  | tooShort
  | yearDigit
  | mark
  | monthDigit
  | dayDigit
  | monthRange
  | dayRange
  | tooLong
  | tooEarly
  | tooLate
  | yearZero
  | notANumber
  deriving DecidableEq, Repr

def Flaw.message : Flaw → String
  | tooShort => "input is too short"
  | yearDigit => "invalid character in year"
  | mark => "invalid date separator, expected \x60-\x60"
  | monthDigit => "invalid character in month"
  | dayDigit => "invalid character in day"
  | monthRange => "month value is outside expected range of 1-12"
  | dayRange => "day value is outside expected range"
  | tooLong => "unexpected extra characters at the end of the input"
  | tooEarly => "dates before 0000 are not supported as unix timestamps"
  | tooLate => "dates after 9999 are not supported as unix timestamps"
  | yearZero => "year 0 is out of range"
  | notANumber => "NaN values not permitted"

/-- A number of so many digits at the start of a text, and what follows it. -/
def takeNumber? (count : Nat) (text : List Char) : Option (Nat × List Char) :=
  let digits := text.take count
  if digits.length = count ∧ digits.all Char.isDigit then
    some (Numeral.natOfDigits digits, text.drop count)
  else none

/-- A day of the calendar. -/
structure Date where
  year : Nat
  month : Nat
  day : Nat
  deriving DecidableEq, Repr

namespace Date

def isLeapYear (year : Nat) : Bool := year % 4 == 0 && (year % 100 != 0 || year % 400 == 0)

/-- The number of days in a month of a year. -/
def daysIn (year month : Nat) : Nat :=
  if month = 2 then if isLeapYear year then 29 else 28
  else if month = 4 ∨ month = 6 ∨ month = 9 ∨ month = 11 then 30
  else 31

/-- The number of days from the start of the year 0 to the start of a year. -/
def daysBefore (year : Nat) : Nat :=
  365 * year + (year + 3) / 4 - (year + 99) / 100 + (year + 399) / 400

/-- The number of days from the start of the year 0. -/
def days (date : Date) : Nat :=
  daysBefore date.year + ((List.range (date.month - 1)).map fun earlier =>
    daysIn date.year (earlier + 1)).foldr (· + ·) 0 + (date.day - 1)

/-- A number in a date, or the flaw that it lacks digits. -/
def takePart (count : Nat) (flaw : Flaw) (text : List Char) : Except Flaw (Nat × List Char) :=
  match takeNumber? count text with
  | some found => .ok found
  | none => .error flaw

/-- What follows the hyphen between two numbers. -/
def takeMark : List Char → Except Flaw (List Char)
  | '-' :: rest => .ok rest
  | _ => .error .mark

/-- The number of octets of a date. -/
def size : Nat := 10

/-- A date at the start of a text, and what follows it. -/
def take (text : List Char) : Except Flaw (Date × List Char) := do
  if (String.ofList text).utf8ByteSize < size then throw .tooShort
  let (year, text) ← takePart 4 .yearDigit text
  let text ← takeMark text
  let (month, text) ← takePart 2 .monthDigit text
  let text ← takeMark text
  let (day, text) ← takePart 2 .dayDigit text
  if month < 1 ∨ 12 < month then throw .monthRange
  if day < 1 ∨ daysIn year month < day then throw .dayRange
  return (⟨year, month, day⟩, text)

/-- Read a text that is a date and nothing more. -/
def read (text : List Char) : Except Flaw Date := do
  let (date, rest) ← take text
  if rest ≠ [] then throw .tooLong
  return date

end Date

end Calendar

end ArenaStandings
