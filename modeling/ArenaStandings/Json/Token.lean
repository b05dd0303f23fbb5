import ArenaStandings.Text.Hex

/-!
# The tokens of a JSON text

A JSON text is cut into marks, quoted texts and atoms. An atom is a longest run of characters that
are neither marks nor quotes nor space; what it means is settled later, for no two atoms can stand
side by side. Quoted texts are read into code units, so that an escaped surrogate pair becomes one
character; half a pair becomes U+FFFD.
-/

namespace ArenaStandings

namespace Json

/-- A token. -/
inductive Token
  | openList
  | closeList
  | openRecord
  | closeRecord
  | comma
  | colon
  /-- A quoted text, with its escapes resolved. -/
  | text (content : List Char)
  /-- A word or a number. -/
  | atom (spelling : List Char)
  deriving DecidableEq, Repr

/-- Where the reader of tokens stands; what is read of a token is kept backwards. -/
inductive Mode
  /-- Between tokens. -/
  | between
  /-- Inside an atom. -/
  | atom (read : List Char)
  /-- Inside a quoted text, with the code units read. -/
  | text (read : List Nat)
  /-- After a backslash. -/
  | escape (read : List Nat)
  /-- Inside the four digits of an escape. -/
  | unit (read : List Nat) (missing value : Nat)

/-- What a character does that ends an atom: the tokens it stands for and the mode it leads to. -/
def boundary? : Char → Option (List Token × Mode)
  | '[' => some ([.openList], .between)
  | ']' => some ([.closeList], .between)
  | '\x7b' => some ([.openRecord], .between)
  | '\x7d' => some ([.closeRecord], .between)
  | ',' => some ([.comma], .between)
  | ':' => some ([.colon], .between)
  | ' ' | '\t' | '\n' | '\r' => some ([], .between)
  | '\x22' => some ([], .text [])
  | _ => none

/-- The code unit of a one-letter escape. -/
def escaped? : Char → Option Nat
  | '\x22' => some 0x22
  | '\\' => some 0x5C
  | '/' => some 0x2F
  | 'b' => some 0x08
  | 'f' => some 0x0C
  | 'n' => some 0x0A
  | 'r' => some 0x0D
  | 't' => some 0x09
  | _ => none

/-- A code unit that begins a surrogate pair. -/
def isHigh (unit : Nat) : Bool := 0xD800 ≤ unit && unit < 0xDC00

/-- A code unit that ends a surrogate pair. -/
def isLow (unit : Nat) : Bool := 0xDC00 ≤ unit && unit < 0xE000

/-- The character of a code unit on its own. -/
def ofUnit (unit : Nat) : Char := if isHigh unit || isLow unit then '\uFFFD' else .ofNat unit

def ofUnits : List Nat → List Char
  | [] => []
  | [unit] => [ofUnit unit]
  | high :: low :: rest =>
    if isHigh high && isLow low then
      .ofNat (0x10000 + (high - 0xD800) * 0x400 + (low - 0xDC00)) :: ofUnits rest
    else ofUnit high :: ofUnits (low :: rest)

def tokensFrom? : Mode → List Char → Option (List Token)
  | .between, [] => some []
  | .atom read, [] => some [.atom read.reverse]
  | _, [] => none
  | .between, character :: rest =>
    match boundary? character with
    | some (tokens, mode) => (tokensFrom? mode rest).map (tokens ++ ·)
    | none => tokensFrom? (.atom [character]) rest
  | .atom read, character :: rest =>
    match boundary? character with
    | some (tokens, mode) => (tokensFrom? mode rest).map (.atom read.reverse :: tokens ++ ·)
    | none => tokensFrom? (.atom (character :: read)) rest
  | .text read, character :: rest =>
    if character = '\x22' then (tokensFrom? .between rest).map (.text (ofUnits read.reverse) :: ·)
    else if character = '\\' then tokensFrom? (.escape read) rest
    else if character.toNat < 0x20 then none
    else tokensFrom? (.text (character.toNat :: read)) rest
  | .escape read, character :: rest =>
    if character = 'u' then tokensFrom? (.unit read 4 0) rest
    else match escaped? character with
      | some unit => tokensFrom? (.text (unit :: read)) rest
      | none => none
  | .unit read missing value, character :: rest =>
    match Hex.value? character with
    | some digit =>
      if missing = 1 then tokensFrom? (.text ((value * 16 + digit) :: read)) rest
      else tokensFrom? (.unit read (missing - 1) (value * 16 + digit)) rest
    | none => none

/-- The tokens of a text, unless a quoted text in it is malformed or not closed. -/
def tokens? (text : List Char) : Option (List Token) := tokensFrom? .between text

end Json

end ArenaStandings
