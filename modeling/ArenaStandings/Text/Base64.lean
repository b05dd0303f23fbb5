/-!
# Base64

Three octets are written as four characters of six bits each; one or two octets at the end as two or
three characters, without padding. The reader is lenient. It takes both spellings of the last two
digits, passes over characters outside the alphabet, and stops at the padding that completes a group
of four.
-/

namespace ArenaStandings

namespace Base64

/-- The digits in the alphabet for addresses, in the order of their values. -/
def alphabet : List Char :=
  "ABCDEFGHIJKLMNOPQRSTUVWXYZabcdefghijklmnopqrstuvwxyz0123456789-_".toList

/-- The digit with a value below sixty-four. -/
def digit (value : Nat) : Char := alphabet.getD value 'A'

/-- The value of a digit. Of the last two both spellings are known. -/
def value? (character : Char) : Option Nat :=
  let code := character.toNat
  if 65 ≤ code ∧ code ≤ 90 then some (code - 65)
  else if 97 ≤ code ∧ code ≤ 122 then some (code - 71)
  else if 48 ≤ code ∧ code ≤ 57 then some (code + 4)
  else if character = '-' ∨ character = '+' then some 62
  else if character = '_' ∨ character = '/' then some 63
  else none

def encode : List UInt8 → List Char
  | [] => []
  | [a] => [digit (a.toNat / 4), digit (a.toNat % 4 * 16)]
  | [a, b] =>
    [digit (a.toNat / 4), digit (a.toNat % 4 * 16 + b.toNat / 16), digit (b.toNat % 16 * 4)]
  | a :: b :: c :: rest =>
    digit (a.toNat / 4) :: digit (a.toNat % 4 * 16 + b.toNat / 16) ::
      digit (b.toNat % 16 * 4 + c.toNat / 64) :: digit (c.toNat % 64) :: encode rest

/-- Where the reader stands in a group of four digits. -/
inductive Place
  /-- Before the first digit. -/
  | first
  /-- After one digit, with its six bits. -/
  | second (bits : Nat)
  /-- After two digits, with the four bits left over, and the padding since then. -/
  | third (bits : Nat) (padded : Bool)
  /-- After three digits, with the two bits left over. -/
  | fourth (bits : Nat)

/-- Read characters from a place in a group. A group that is neither complete nor padded is
malformed; what follows the padding is not read. -/
def decodeFrom? : Place → List Char → Option (List UInt8)
  | .first, [] => some []
  | _, [] => none
  | place, '=' :: rest =>
    match place with
    | .first => decodeFrom? .first rest
    | .second bits => decodeFrom? (.second bits) rest
    | .third bits false => decodeFrom? (.third bits true) rest
    | .third _ true => some []
    | .fourth _ => some []
  | place, character :: rest =>
    match value? character with
    | none => decodeFrom? place rest
    | some value =>
      match place with
      | .first => decodeFrom? (.second value) rest
      | .second bits =>
        (decodeFrom? (.third (value % 16) false) rest).map (.ofNat (bits * 4 + value / 16) :: ·)
      | .third bits _ =>
        (decodeFrom? (.fourth (value % 4)) rest).map (.ofNat (bits * 16 + value / 4) :: ·)
      | .fourth bits => (decodeFrom? .first rest).map (.ofNat (bits * 64 + value) :: ·)

/-- The octets that a text of ASCII characters spells; a text with any other character spells
none. -/
def decode? (text : List Char) : Option (List UInt8) :=
  if text.all fun character => character.toNat < 128 then decodeFrom? .first text else none

/-- Complete a text to a multiple of four characters with padding. -/
def pad (text : List Char) : List Char :=
  text ++ List.replicate ((4 - text.length % 4) % 4) '='

end Base64

end ArenaStandings
