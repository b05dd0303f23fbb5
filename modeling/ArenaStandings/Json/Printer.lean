import ArenaStandings.Failure
import ArenaStandings.Text.Hex

/-!
# Writing a JSON text

`Json.print` writes a value as a JSON text without blanks, in printable ASCII: any other character
is escaped by its code units. Doubles that are no finite numbers are written as the words NaN,
Infinity and -Infinity. An integer with too many digits cannot be written, and neither can an object
identifier; of two such values the first in the text is the cause of the failure.
-/

namespace ArenaStandings

namespace Json

/-- The escape of a code unit by its number. -/
def numericEscape (unit : Nat) : List Char := '\\' :: 'u' :: Hex.padded 4 unit

/-- A character in a quoted text. A character beyond the first plane is two code units. -/
def escape (character : Char) : List Char :=
  let code := character.toNat
  if character = '\x22' ∨ character = '\\' then ['\\', character]
  else if character = '\x08' then ['\\', 'b']
  else if character = '\x0c' then ['\\', 'f']
  else if character = '\n' then ['\\', 'n']
  else if character = '\r' then ['\\', 'r']
  else if character = '\t' then ['\\', 't']
  else if 0x20 ≤ code ∧ code < 0x7F then [character]
  else if code < 0x10000 then numericEscape code
  else
    numericEscape (0xD800 + (code - 0x10000) / 0x400) ++
      numericEscape (0xDC00 + (code - 0x10000) % 0x400)

def quote (text : List Char) : List Char := '\x22' :: (text.flatMap escape ++ ['\x22'])

def printFloat (x : Float) : List Char :=
  match Double.shape x with
  | .notANumber => "NaN".toList
  | .infinite negative => if negative then "-Infinity".toList else "Infinity".toList
  | .finite .. => (Double.text x).toList

/-- Texts with commas between them. -/
def separated (texts : List (List Char)) : List Char := List.intercalate [','] texts

mutual

/-- The text of a value, if it can be written. -/
def print : Value → Except Failure (List Char)
  | .null => .ok "null".toList
  | .bool truth => .ok (if truth then "true" else "false").toList
  | .int n => if Value.intLegible n then .ok (toString n).toList else .error .tooManyDigits
  | .float x => .ok (printFloat x)
  | .text content => .ok (quote content.toList)
  | .objectId _ => .error .unwritableIdentifier
  | .list items => do
    let texts ← printItems items
    return '[' :: (separated texts ++ [']'])
  | .record fields => do
    let texts ← printFields fields
    return '\x7b' :: (separated texts ++ ['\x7d'])

def printItems : List Value → Except Failure (List (List Char))
  | [] => .ok []
  | item :: rest => do
    let text ← print item
    let texts ← printItems rest
    return text :: texts

def printFields : List (String × Value) → Except Failure (List (List Char))
  | [] => .ok []
  | (name, value) :: rest => do
    let text ← print value
    let texts ← printFields rest
    return (quote name.toList ++ ':' :: text) :: texts

end

end Json

end ArenaStandings
