import ArenaStandings.Schema.NumberText
import ArenaStandings.Text.DecimalDigit
import ArenaStandings.Web.Host

/-!
# Addresses

An address names a site, which is a scheme, a host and perhaps a port, and on it a path and perhaps
a query. `Address.parse` takes the text of an address apart and says what is wrong with a text that
is none; a fragment and the name of a user are dropped. Scheme and host may be missing:
`Address.resolve` looks such an address up on a given site.
-/

namespace ArenaStandings

/-- Where something is served. -/
structure Site where
  scheme : List Char
  host : List Char
  port : Option Int
  deriving DecidableEq, Repr

/-- A place on a site; scheme and host are empty if they are missing. -/
structure Address where
  site : Site
  /-- The path as it was written. It has dot segments only if scheme and host are missing. -/
  path : List Char
  /-- The query as it was written. -/
  query : List Char
  deriving DecidableEq, Repr

/-- Why a text is no address. -/
inductive AddressFlaw
  | long
  /-- A part of the address is too long. -/
  | longPart (part : String)
  /-- The text holds a control character, at a place. -/
  | control (character : Char) (position : Nat)
  | host (flaw : HostFlaw)
  | port (text : List Char)
  | doubleSlash
  | colon
  deriving DecidableEq, Repr

def AddressFlaw.message : AddressFlaw → String
  | long => "URL too long"
  | longPart part => "URL component '" ++ part ++ "' too long"
  | control character position =>
    "Invalid non-printable ASCII character in URL, " ++ Quoted.quote character.toString ++
      " at position " ++ toString position ++ "."
  | host flaw => flaw.message
  | port text => "Invalid port: " ++ Quoted.quote (.ofList text)
  | doubleSlash => "Relative URLs cannot have a path starting with '//'"
  | colon => "Relative URLs cannot have a path starting with ':'"

namespace Site

/-- The port on which a scheme is served if no port is given. -/
def servicePort? (scheme : List Char) : Option Int :=
  match String.ofList scheme with
  | "http" | "ws" => some 80
  | "https" | "wss" => some 443
  | _ => none

/-- The port that need not be written in an address with a scheme. -/
def usualPort? (scheme : List Char) : Option Int :=
  if scheme = "ftp".toList then some 21 else servicePort? scheme

/-- Host and port in one text, with brackets around groups. -/
def text (site : Site) : List Char :=
  Host.bracketed site.host ++ site.port.elim [] fun port => ':' :: (toString port).toList

/-- The host as it is meant: a name that is encoded in ASCII is decoded. -/
def hostName (site : Site) : Except BadLabel (List Char) := HostName.decode site.host

end Site

namespace Address

/-! ## Dot segments -/

/-- Resolve dot segments against the segments before them, which are kept backwards. The empty
segment before the first slash is never removed. -/
def resolveDots : List (List Char) → List (List Char) → List (List Char)
  | kept, [] => kept.reverse
  | kept, segment :: rest =>
    if segment = ['.'] then resolveDots kept rest
    else if segment = ['.', '.'] then
      resolveDots (if kept = [[]] then kept else kept.drop 1) rest
    else resolveDots (segment :: kept) rest

/-- A path without dot segments. -/
def withoutDots (path : List Char) : List Char :=
  List.intercalate ['/'] (resolveDots [] (Split.all '/' path))

/-! ## The parts of the text -/

/-- The most characters that an address or a part of it may have. -/
def longest : Nat := 65536

def isControl (character : Char) : Bool := character.toNat < 0x20 || character.toNat == 0x7F

def isSchemeCharacter (character : Char) : Bool :=
  character.isAlphanum || "+.-".toList.contains character

/-- The scheme before a colon, and what follows them; the scheme may be empty. -/
def splitScheme (text : List Char) : List Char × List Char :=
  let scheme := text.takeWhile isSchemeCharacter
  match text.dropWhile isSchemeCharacter with
  | ':' :: rest => if (scheme.head?.map Char.isAlpha).getD true then (scheme, rest) else ([], text)
  | _ => ([], text)

/-- What stands between two slashes and the path, and what follows it. -/
def splitAuthority : List Char → List Char × List Char
  | '/' :: '/' :: rest =>
    (rest.takeWhile (! "/?#".toList.contains ·), rest.dropWhile (! "/?#".toList.contains ·))
  | text => ([], text)

/-- What stands before the last at sign, and what follows it. -/
def splitUser (authority : List Char) : List Char × List Char :=
  if authority.contains '@' then
    ((authority.reverse.dropWhile (· ≠ '@')).reverse.dropLast,
      (authority.reverse.takeWhile (· ≠ '@')).reverse)
  else ([], authority)

/-- A host and the text of a port. A host may stand in brackets, and the last of them ends it. -/
def splitHost (text : List Char) : List Char × List Char :=
  let host :=
    if text.head? = some '[' ∧ text.contains ']' then
      (text.reverse.dropWhile (· ≠ ']')).reverse
    else text.takeWhile (· ≠ ':')
  let rest := text.drop host.length
  (host, if rest.head? = some ':' then rest.drop 1 else rest)

/-- The number of a port, in decimal digits of any script: white space around it, a sign and single
underscores do no harm. -/
def portNumber? (text : List Char) : Option Int := do
  let (sign, unsigned) := Numeral.splitSign (Blank.trim Blank.isBlank text)
  let digits ← NumberText.dropUnderscores? unsigned
  if digits = [] ∨ NumberText.sizeLimit < digits.length then none
  let magnitude : Int := ← DecimalDigit.number? digits
  return if sign = some '-' then -magnitude else magnitude

/-- Read the port of an address. There is none if it is the usual one. -/
def readPort (scheme text : List Char) : Except AddressFlaw (Option Int) :=
  if text = [] then .ok none
  else match portNumber? text with
    | some port => .ok (if Site.usualPort? scheme = some port then none else some port)
    | none => .error (.port text)

/-- What is wrong with a path that neither a scheme nor a host precedes. -/
def pathFlaw? : List Char → Option AddressFlaw
  | '/' :: '/' :: _ => some .doubleSlash
  | ':' :: _ => some .colon
  | _ => none

def parse (text : List Char) : Except AddressFlaw Address := do
  if longest < text.length then throw .long
  if let some position := text.findIdx? isControl then
    throw (.control (text.getD position ' ') position)
  let (scheme, rest) := splitScheme text
  let (authority, rest) := splitAuthority rest
  let (path, query) := Split.first '?' (rest.takeWhile (· ≠ '#'))
  let (user, place) := splitUser authority
  let (hostText, portText) := splitHost place
  let host ← (Host.read hostText).mapError .host
  let port ← readPort scheme portText
  if scheme = [] ∧ user = [] ∧ host = [] ∧ port = none then
    if let some flaw := pathFlaw? path then throw flaw
    return ⟨⟨[], [], none⟩, path, query⟩
  return ⟨⟨scheme.map Case.lowerLatin, host, port⟩, withoutDots path, query⟩

/-! ## Addresses on a site -/

/-- Is the character a visible one of ASCII, and none of these? -/
def isSafe (excluded : List Char) (character : Char) : Bool :=
  0x20 < character.toNat && character.toNat < 0x7F && !excluded.contains character

/-- The characters that need a triple in a query, besides blanks and those beyond ASCII. -/
def encodedInQuery : List Char := "\x22#<>".toList

/-- The characters that need a triple in a path. -/
def encodedInPath : List Char := encodedInQuery ++ "?\x60\x7b\x7d".toList

/-- Does a part of an address become too long when its characters are written safely? -/
def isLong (excluded part : List Char) : Bool :=
  longest < (Percent.encode (isSafe excluded) part).length

/-- Look the address up on a site, unless it names one. Slashes in front of its path count as
one. -/
def resolve (base : Site) (address : Address) : Except AddressFlaw Address :=
  if address.site.scheme ≠ [] ∧ address.site.host ≠ [] then .ok address
  else
    let path := '/' :: address.path.dropWhile (· = '/')
    if isLong encodedInPath path then .error (.longPart "path")
    else if isLong encodedInQuery address.query then .error (.longPart "query")
    else .ok ⟨base, withoutDots path, address.query⟩

end Address

end ArenaStandings
