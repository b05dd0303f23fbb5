import ArenaStandings.Decimal.Numeral
import ArenaStandings.Text.Case
import ArenaStandings.Text.Percent
import ArenaStandings.Web.HostName

/-!
# Hosts

A host is written as four numbers between points, as eight groups of hexadecimal digits between
colons and in brackets, or as a name. `Host.read` takes the host of an address, which may be empty,
and says what is wrong with one that stands for nothing. `Host.isNamed` judges the text by which a
request names the host that it is meant for, perhaps with a port.
-/

namespace ArenaStandings

/-- Why a text is no host. -/
inductive HostFlaw
  /-- It looks like four numbers and is not. -/
  | numbers (text : List Char)
  /-- It stands in brackets and is no row of groups. -/
  | groups (text : List Char)
  /-- It is no name. -/
  | name (text : List Char)
  deriving DecidableEq, Repr

def HostFlaw.message : HostFlaw → String
  | numbers text => "Invalid IPv4 address: " ++ Quoted.quote (.ofList text)
  | groups text => "Invalid IPv6 address: " ++ Quoted.quote (.ofList text)
  | name text => "Invalid IDNA hostname: " ++ Quoted.quote (.ofList text)

namespace Host

/-! ## Four numbers -/

/-- Is the text a number below 256 without a needless zero? -/
def isOctet (text : List Char) : Bool :=
  text ≠ [] && text.all Char.isDigit && text.length ≤ 3 &&
    (text.length = 1 || text.head? ≠ some '0') && Numeral.natOfDigits text < 256

/-- Is the text four numbers between points? -/
def isFourNumbers (text : List Char) : Bool :=
  let parts := Split.all '.' text
  parts.length = 4 && parts.all isOctet

/-- Is the text four rows of digits between points? -/
def looksLikeFourNumbers (text : List Char) : Bool :=
  let parts := Split.all '.' text
  parts.length = 4 && parts.all fun part => part ≠ [] && part.all Char.isDigit

/-! ## Groups -/

/-- Is the text a group, one to four hexadecimal digits? -/
def isGroup (text : List Char) : Bool :=
  text ≠ [] && text.length ≤ 4 && text.all fun character => (Hex.value? character).isSome

/-- The number of groups that the parts are. Four numbers at the end stand for two groups. -/
def countGroups? : List (List Char) → Option Nat
  | [] => some 0
  | [last] => if isGroup last then some 1 else if isFourNumbers last then some 2 else none
  | part :: rest => if isGroup part then (countGroups? rest).map (· + 1) else none

/-- The number of groups that a text is; an empty text is none. -/
def groupsOf? (text : List Char) : Option Nat :=
  if text = [] then some 0 else countGroups? (Split.all ':' text)

/-- What stands before and after the first pair of colons. -/
def cutAtGap? : List Char → Option (List Char × List Char)
  | ':' :: ':' :: rest => some ([], rest)
  | character :: rest => (cutAtGap? rest).map fun sides => (character :: sides.1, sides.2)
  | [] => none

/-- Is the text eight groups, of which a pair of colons may leave some out? -/
def isGroups (text : List Char) : Bool :=
  match cutAtGap? text with
  | none => groupsOf? text = some 8
  | some (before, after) =>
    match groupsOf? before, groupsOf? after with
    | some left, some right => !before.contains '.' && left + right < 8
    | _, _ => false

/-- Is the text eight groups, perhaps with a zone after a percent sign? -/
def isZonedGroups (text : List Char) : Bool :=
  let (groups, zone) := Split.first '%' text
  isGroups groups && (!text.contains '%' || zone ≠ [] && !zone.contains '%')

/-! ## Names -/

/-- The marks that may stand in a name besides the unreserved characters. -/
def isDelimiter (character : Char) : Bool := "!$&\x27()*+,;=".toList.contains character

/-- The characters of a name that need no triple. -/
def isKept (character : Char) : Bool :=
  Percent.isUnreserved character || isDelimiter character ||
    "\x22\x60\x7b\x7d%|\\".toList.contains character

/-! ## Hosts in addresses -/

def isBracketed (text : List Char) : Bool := text.head? = some '[' && text.getLast? = some ']'

/-- The host that a text stands for: groups without their brackets, or a name in small letters and
in ASCII. -/
def read (text : List Char) : Except HostFlaw (List Char) :=
  if looksLikeFourNumbers text then
    if isFourNumbers text then .ok text else .error (.numbers text)
  else if isBracketed text then
    let inner := (text.drop 1).dropLast
    if isZonedGroups inner then .ok inner else .error (.groups text)
  else
    let name := (Case.lower (.ofList text)).toList
    if text.all (·.toNat < 0x80) then .ok (Percent.encode isKept name)
    else match HostName.encode? name with
      | some encoded => .ok encoded
      | none => .error (.name text)

/-- A host in the form in which a port may follow it: groups stand in brackets. -/
def bracketed (host : List Char) : List Char :=
  if host.contains ':' then ['['] ++ host ++ [']'] else host

/-! ## Hosts in headers -/

/-- Is the text a kind of host that is not known yet: a letter, a number and a point before the
rest? -/
def isFutureKind (text : List Char) : Bool :=
  match text with
  | [] => false
  | letter :: rest =>
    let (version, address) := Split.first '.' rest
    letter == 'v' && version ≠ [] &&
      version.all (fun character => (Hex.value? character).isSome) && address ≠ [] &&
      address.all fun character =>
        Percent.isUnreserved character || isDelimiter character || character == ':'

/-- Is the text a name in characters that may stand in one? A percent sign may stand anywhere. -/
def isPlainName (text : List Char) : Bool :=
  text ≠ [] && text.all fun character =>
    Percent.isUnreserved character || isDelimiter character || character == '%'

def greatestPort : Nat := 65535

/-- Is the text empty, or a colon with the digits of a port after it? -/
def isPort : List Char → Bool
  | [] => true
  | mark :: digits =>
    mark == ':' && digits ≠ [] && digits.all Char.isDigit &&
      Numeral.natOfDigits digits ≤ greatestPort

/-- Is the text a host as a request may name it, perhaps with a port? -/
def isNamed (text : List Char) : Bool :=
  if text.head? = some '[' then
    let (inner, port) := Split.first ']' (text.drop 1)
    text.contains ']' && (isGroups inner || isFutureKind inner) && isPort port
  else isPlainName (text.takeWhile (· ≠ ':')) && isPort (text.dropWhile (· ≠ ':'))

end Host

end ArenaStandings
