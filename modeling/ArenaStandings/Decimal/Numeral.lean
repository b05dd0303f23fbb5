import ArenaStandings.Decimal.Double

/-!
# Numerals

`Numeral.split?` takes the text of a number apart into sign, whole part, fraction and exponent. Each
of the last three may be missing, so that every format of numbers is a condition on the parts.
-/

namespace ArenaStandings

/-- The text of a number, taken apart. -/
structure Numeral where
  /-- The sign, if there is one. -/
  sign : Option Char
  /-- The digits before the point. -/
  whole : List Char
  /-- The digits after the point, if there is a point. -/
  fraction : Option (List Char)
  /-- Whether the exponent is negative, and its digits, if there is an exponent. -/
  exponent : Option (Bool × List Char)

namespace Numeral

def splitSign : List Char → Option Char × List Char
  | '-' :: rest => (some '-', rest)
  | '+' :: rest => (some '+', rest)
  | text => (none, text)

/-- The digits at the start and what follows them. -/
def splitDigits (text : List Char) : List Char × List Char :=
  (text.takeWhile Char.isDigit, text.dropWhile Char.isDigit)

/-- A point with the digits after it, and what follows them. -/
def splitFraction : List Char → Option (List Char) × List Char
  | '.' :: rest => let (digits, after) := splitDigits rest; (some digits, after)
  | text => (none, text)

/-- The exponent that a text consists of: no text at all, or a mark, a sign perhaps, and digits. -/
def exponent? : List Char → Option (Option (Bool × List Char))
  | [] => some none
  | mark :: rest =>
    let (sign, digits) := splitSign rest
    if (mark = 'e' ∨ mark = 'E') ∧ digits ≠ [] ∧ digits.all Char.isDigit then
      some (some (sign == some '-', digits))
    else none

/-- Take a whole text apart. -/
def split? (text : List Char) : Option Numeral :=
  let (sign, unsigned) := splitSign text
  let (whole, tail) := splitDigits unsigned
  let (fraction, last) := splitFraction tail
  (exponent? last).map fun exponent => ⟨sign, whole, fraction, exponent⟩

def isNegative (numeral : Numeral) : Bool := numeral.sign == some '-'

/-- Is the numeral written with neither a point nor an exponent? -/
def isInteger (numeral : Numeral) : Bool := numeral.fraction.isNone && numeral.exponent.isNone

/-- The number that a row of digits stands for. -/
def natOfDigits (digits : List Char) : Nat := Nat.ofDigitChars 10 digits 0

/-- The integer before the point. -/
def toInt (numeral : Numeral) : Int :=
  if numeral.isNegative then -(natOfDigits numeral.whole : Int) else natOfDigits numeral.whole

def toFloat (numeral : Numeral) : Float :=
  let fraction := numeral.fraction.getD []
  let exponent : Int := match numeral.exponent with
    | none => 0
    | some (true, digits) => -(natOfDigits digits : Int)
    | some (false, digits) => natOfDigits digits
  Double.ofDecimal numeral.isNegative (natOfDigits (numeral.whole ++ fraction))
    (exponent - fraction.length)

end Numeral

end ArenaStandings
