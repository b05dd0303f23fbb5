import ArenaStandings.Calendar.Date
import ArenaStandings.Number

/-!
# Moments

A `Moment` is a second of the calendar in the years from 0 to 9999, by the clock of its own zone. It
is read from a date with a time of day, or from a count of seconds since the start of 1970. A count
that is too large for seconds is one of milliseconds. `Moment.ofText` also accepts a date alone,
which stands for its first second, and of a text that is nothing of all this it says what keeps it
from being a date.
-/

namespace ArenaStandings

namespace Calendar

/-! ## Times of day -/

/-- Is the text empty, or a zone: the letter Z, or a sign with hours and minutes of less than a
day? -/
def isZone : List Char → Bool
  | [] => true
  | sign :: rest =>
    if (sign = 'Z' ∨ sign = 'z') ∧ rest = [] then true
    else if sign = '+' ∨ sign = '-' ∨ sign = '\u2212' then
      match takeNumber? 2 rest with
      | none => false
      | some (hours, rest) =>
        match takeNumber? 2 (if rest.head? = some ':' then rest.drop 1 else rest) with
        | some (minutes, []) => minutes < 60 && hours < 24
        | _ => false
    else false

/-- Is the text a zone, perhaps behind a point or a comma and further digits? -/
def isFractionAndZone : List Char → Bool
  | [] => true
  | mark :: rest =>
    if mark = '.' ∨ mark = ',' then
      let (digits, zone) := Numeral.splitDigits rest
      digits ≠ [] && isZone zone
    else isZone (mark :: rest)

/-- The seconds of a minute, if what follows them is as it should be; they may be left out. -/
def secondsOf? : List Char → Option Nat
  | ':' :: rest =>
    match takeNumber? 2 rest with
    | some (seconds, rest) => if seconds < 60 && isFractionAndZone rest then some seconds else none
    | none => none
  | rest => if isZone rest then some 0 else none

/-- The second of the day that a text stands for. -/
def timeOfDay? (text : List Char) : Option Nat :=
  match takeNumber? 2 text with
  | some (hours, ':' :: rest) =>
    match takeNumber? 2 rest with
    | some (minutes, rest) =>
      if hours < 24 ∧ minutes < 60 then
        (secondsOf? rest).map fun seconds => hours * 3600 + minutes * 60 + seconds
      else none
    | none => none
  | _ => none

/-! ## Moments -/

/-- A second of the calendar, counted from the start of the year 0. -/
structure Moment where
  second : Nat
  deriving DecidableEq, Repr

namespace Moment

def dayLength : Nat := 86400

def ofDate (date : Date) : Moment := ⟨date.days * dayLength⟩

/-- The moment of a date and a time of day; a letter, a blank or an underscore stands between
them. -/
def ofDated? (text : List Char) : Option Moment :=
  match Date.take text with
  | .ok (date, mark :: rest) =>
    if mark = 'T' ∨ mark = 't' ∨ mark = ' ' ∨ mark = '_' then
      (timeOfDay? rest).map fun second => ⟨date.days * dayLength + second⟩
    else none
  | _ => none

def epoch : Nat := Date.daysBefore 1970 * dayLength

/-- The largest count that is one of seconds. -/
def watershed : Nat := 20000000000

/-- The moment of a count of seconds since 1970. -/
def ofSeconds (seconds : Int) : Except Flaw Moment :=
  let second := epoch + seconds
  if second < 0 then .error .tooEarly
  else if Date.daysBefore 10000 * dayLength ≤ second then .error .tooLate
  else .ok ⟨second.toNat⟩

/-- The moment of a whole count since 1970, of milliseconds if it is too large for seconds. -/
def ofCount (count : Int) : Except Flaw Moment :=
  ofSeconds (if count.natAbs ≤ watershed then count else count.fdiv 1000)

/-- The greatest integer that is not above a finite double. -/
def floor (negative : Bool) (mantissa : Nat) (exponent : Int) : Int :=
  let whole : Int := Double.wholePart mantissa exponent
  if !negative then whole
  else if Double.isWhole mantissa exponent then -whole
  else -whole - 1

/-- The moment of a double as a count, rounded to microseconds. Milliseconds are first brought down
to seconds. -/
def ofFloat (x : Float) : Except Flaw Moment :=
  let seconds := if x.abs > Float.ofNat watershed then x / 1000 else x
  match Double.shape seconds with
  | .notANumber => .error .notANumber
  | .infinite negative => .error (if negative then .tooEarly else .tooLate)
  | .finite negative mantissa exponent =>
    let microseconds := ((seconds - seconds.floor) * 1000000).round.toUInt64.toNat
    ofSeconds (floor negative mantissa exponent + (microseconds / 1000000 : Nat))

/-- Is the integer small enough to be a count that is written in a text? -/
def isCount (n : Int) : Bool :=
  let bound : Int := Nat.pow 2 63
  n < bound && -bound ≤ n

/-- The moment of a text that is a count. A count with an exponent has a point as well, and one with
a point counts only if there is such a moment. -/
def ofNumeral? (text : List Char) : Option (Except Flaw Moment) := do
  let numeral ← Numeral.split? text
  if !isCount numeral.toInt then none
  match numeral.fraction with
  | none =>
    if numeral.whole = [] ∨ numeral.exponent.isSome then none else some (ofCount numeral.toInt)
  | some fraction =>
    if numeral.whole = [] ∧ fraction = [] then none
    else (ofFloat numeral.toFloat).toOption.map .ok

/-- The moment that a text stands for. Of a text that is neither a moment nor a count, say what is
wrong with it as a date. -/
def ofText (text : List Char) : Except Flaw Moment :=
  match ofDated? text, ofNumeral? text with
  | some moment, _ => .ok moment
  | none, some counted => counted
  | none, none => (Date.read text).map ofDate

/-- Does the moment lie in a year of the calendar? There is no year 0. -/
def inCalendar (moment : Moment) : Except Flaw Moment :=
  if moment.second < Date.daysBefore 1 * dayLength then .error .yearZero else .ok moment

end Moment

end Calendar

end ArenaStandings
