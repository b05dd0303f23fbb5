import ArenaStandings.Text.Hex
import ArenaStandings.Text.Utf8

/-!
# Percent-encoded text

An octet may be written as a percent sign and two hexadecimal digits. `Percent.decode` replaces such
triples, and leaves a percent sign alone that is not followed by two digits; `Percent.encode` writes
every octet outside a set of safe characters as a triple with capital digits.
-/

namespace ArenaStandings

namespace Percent

/-- The octets of a text in which triples stand for octets. -/
def decodeOctets : List Char → List UInt8
  | [] => []
  | '%' :: high :: low :: rest =>
    match Hex.value? high, Hex.value? low with
    | some h, some l => .ofNat (h * 16 + l) :: decodeOctets rest
    | _, _ => 0x25 :: decodeOctets (high :: low :: rest)
  | character :: rest => String.utf8EncodeChar character ++ decodeOctets rest
termination_by text => text.length

/-- The text that a text with triples stands for; octets that spell no text become U+FFFD. -/
def decode (text : List Char) : List Char := Utf8.decodeLossy (decodeOctets text)

/-- The triple of an octet. -/
def triple (octet : UInt8) : List Char :=
  ['%', Hex.capital (octet.toNat / 16), Hex.capital (octet.toNat % 16)]

/-- Write the characters outside a set of safe ones as triples. -/
def encode (safe : Char → Bool) (text : List Char) : List Char :=
  text.flatMap fun character =>
    if safe character then [character] else (String.utf8EncodeChar character).flatMap triple

/-- Letters, digits and the four marks that need no triple anywhere. -/
def isUnreserved (character : Char) : Bool :=
  character.isAlphanum || character == '-' || character == '.' || character == '_' ||
    character == '~'

end Percent

end ArenaStandings
