import ArenaStandings.Decimal.Numeral
import ArenaStandings.Text.Blank
import ArenaStandings.Text.Case

/-!
# Numbers in texts

A number may come as a text. The plain text of an integer is a minus sign perhaps and digits, of
which the first of several is no zero. Any other text is tidied first: white space around it, a plus
sign, leading zeros, a point with nothing but zeros after it and single underscores are taken away,
and what remains must be plain. Leading zeros are cut off without a look at what stands behind them,
so that a minus sign may follow them.

The text of a double is a numeral with a digit before or after the point, or one of the words for an
infinity and for what is not a number; white space around it does not count, and single underscores
may stand between its characters.
-/

namespace ArenaStandings

namespace NumberText

/-- What the text of an integer is found to be. -/
inductive IntegerText
  | value (n : Int)
  | malformed
  | oversized
  deriving DecidableEq, Repr

def sizeLimit : Nat := 4300

/-- Read the plain text of an integer. One with too many digits is oversized whatever follows it. -/
def readPlainInteger (text : List Char) : IntegerText :=
  let unsigned := if text.head? = some '-' then text.drop 1 else text
  let (digits, rest) := Numeral.splitDigits unsigned
  if digits = [] ∨ digits.head? = some '0' ∧ digits.length ≠ 1 then .malformed
  else if sizeLimit < digits.length then .oversized
  else if rest ≠ [] then .malformed
  else
    let magnitude : Int := Numeral.natOfDigits digits
    .value (if text.head? = some '-' then -magnitude else magnitude)

/-- Go on cutting off zeros and underscores behind a first zero; the last of them is kept in front
of a point and at the end. -/
def dropZerosAfter? : Char → List Char → Option (List Char)
  | last, [] => some [last]
  | last, character :: rest =>
    if character = '0' ∨ character = '_' then dropZerosAfter? character rest
    else if character = '-' ∨ character.isDigit then some (character :: rest)
    else if character = '.' then some (last :: character :: rest)
    else none

/-- Cut off leading zeros. A text that begins with neither a digit nor a minus sign has none. -/
def dropZeros? : List Char → Option (List Char)
  | [] => none
  | character :: rest =>
    if character = '0' then dropZerosAfter? character rest
    else if character = '-' ∨ character.isDigit then some (character :: rest)
    else none

/-- Cut off a point with one or more zeros after it. -/
def dropZeroFraction (text : List Char) : List Char :=
  match text.dropWhile (· ≠ '.') with
  | _ :: zero :: rest =>
    if (zero :: rest).all (· == '0') then text.takeWhile (· ≠ '.') else text
  | _ => text

/-- Take out underscores that stand alone and not at an end. -/
def dropUnderscores? (text : List Char) : Option (List Char) :=
  let doubled := (text.zip text.tail).any fun pair => pair.1 == '_' && pair.2 == '_'
  if text.head? = some '_' ∨ text.getLast? = some '_' ∨ doubled then none
  else some (text.filter (· ≠ '_'))

def tidyInteger? (text : List Char) : Option (List Char) := do
  let (sign, unsigned) := Numeral.splitSign (Blank.trim Blank.isWhiteSpace text)
  if sign.isSome ∧ unsigned.head? = some '-' then none
  let significant ← dropZeros? unsigned
  let digits ← dropUnderscores? (dropZeroFraction significant)
  return if sign = some '-' then '-' :: digits else digits

/-- Read the text of an integer. Only a plain text is found to be oversized. -/
def readInteger (text : List Char) : IntegerText :=
  match readPlainInteger text with
  | .malformed =>
    match (tidyInteger? text).map readPlainInteger with
    | some (.value n) => .value n
    | _ => .malformed
  | read => read

/-- Read the text of a double without white space and underscores. -/
def readPlainFloat? (text : List Char) : Option Float :=
  let (sign, unsigned) := Numeral.splitSign text
  let word := String.ofList (unsigned.map Case.lowerLatin)
  if word = "nan" then some (0.0 / 0.0)
  else if word = "inf" ∨ word = "infinity" then
    some (if sign = some '-' then -1.0 / 0.0 else 1.0 / 0.0)
  else
    (Numeral.split? text).bind fun numeral =>
      if numeral.whole = [] ∧ numeral.fraction.getD [] = [] then none else some numeral.toFloat

/-- Read the text of a double: trimmed, or without its underscores. -/
def readFloat? (text : List Char) : Option Float :=
  (readPlainFloat? (Blank.trim Blank.isWhiteSpace text)).orElse fun _ =>
    (dropUnderscores? text).bind readPlainFloat?

end NumberText

end ArenaStandings
