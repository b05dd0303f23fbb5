/-!
# Text as octets

`Utf8.encode` writes a text as octets. Octets are read back with one small machine: an octet begins
a character, ends it, or lies in its middle, and the first octet of a long character narrows what
may come second, so that every character has one spelling and none lies in the surrogate range.
`Utf8.decode?` refuses ill-formed octets; `Utf8.decodeLossy` puts U+FFFD for each longest run of
octets that begins a character and does not complete it.
-/

namespace ArenaStandings

namespace Utf8

def encode (text : List Char) : List UInt8 := text.flatMap String.utf8EncodeChar

/-- A character of which some octets are read. -/
structure Started where
  /-- The bits read so far. -/
  bits : Nat
  /-- How many octets are still to come. -/
  missing : Nat
  /-- The least octet that may come next. -/
  least : Nat
  /-- The greatest octet that may come next. -/
  greatest : Nat

/-- What an octet does. -/
inductive Move
  /-- It completes a character. -/
  | complete (character : Char)
  /-- It leaves a character started. -/
  | proceed (started : Started)
  /-- It is out of place. -/
  | refuse

def start (octet : UInt8) : Move :=
  let byte := octet.toNat
  if byte < 0x80 then .complete (.ofNat byte)
  else if byte < 0xC2 then .refuse
  else if byte < 0xE0 then .proceed ⟨byte - 0xC0, 1, 0x80, 0xBF⟩
  else if byte < 0xF0 then
    .proceed ⟨byte - 0xE0, 2, if byte = 0xE0 then 0xA0 else 0x80,
      if byte = 0xED then 0x9F else 0xBF⟩
  else if byte < 0xF5 then
    .proceed ⟨byte - 0xF0, 3, if byte = 0xF0 then 0x90 else 0x80,
      if byte = 0xF4 then 0x8F else 0xBF⟩
  else .refuse

/-- Read a later octet of a character. -/
def Started.extend (started : Started) (octet : UInt8) : Move :=
  let byte := octet.toNat
  if byte < started.least ∨ started.greatest < byte then .refuse
  else
    let bits := started.bits * 64 + byte % 64
    if started.missing = 1 then .complete (.ofNat bits)
    else .proceed ⟨bits, started.missing - 1, 0x80, 0xBF⟩

/-- Read octets strictly, with a character perhaps started. -/
def decodeFrom? : Option Started → List UInt8 → Option (List Char)
  | none, [] => some []
  | some _, [] => none
  | state, octet :: rest =>
    match (match state with | none => start octet | some started => started.extend octet) with
    | .complete character => (decodeFrom? none rest).map (character :: ·)
    | .proceed started => decodeFrom? (some started) rest
    | .refuse => none

/-- The text with these octets, if they are well formed. -/
def decode? (octets : List UInt8) : Option (List Char) := decodeFrom? none octets

/-- The character that stands for octets that spell none. -/
def replacement : Char := '\uFFFD'

/-- Read octets leniently, with a character perhaps started. An octet that does not continue a
started character is read again as a first octet. -/
def decodeLossyFrom : Option Started → List UInt8 → List Char
  | none, [] => []
  | some _, [] => [replacement]
  | none, octet :: rest =>
    match start octet with
    | .complete character => character :: decodeLossyFrom none rest
    | .proceed started => decodeLossyFrom (some started) rest
    | .refuse => replacement :: decodeLossyFrom none rest
  | some started, octet :: rest =>
    match started.extend octet with
    | .complete character => character :: decodeLossyFrom none rest
    | .proceed started => decodeLossyFrom (some started) rest
    | .refuse =>
      replacement ::
        match start octet with
        | .complete character => character :: decodeLossyFrom none rest
        | .proceed started => decodeLossyFrom (some started) rest
        | .refuse => replacement :: decodeLossyFrom none rest

/-- The text with these octets, with U+FFFD where they are ill formed. -/
def decodeLossy (octets : List UInt8) : List Char := decodeLossyFrom none octets

end Utf8

end ArenaStandings
