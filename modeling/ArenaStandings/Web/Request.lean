import ArenaStandings.Web.Target

/-!
# Requests

A request has a method, a target on a site, and headers. `Request.make` makes one from the text of
an address, which is looked up on a site, and says why there can be none: the text is no address,
its host is no name, or a header is not ASCII. A request may name the host that it is meant for;
`Request.addressOf?` gives the address of another path on that host.
-/

namespace ArenaStandings

structure Request where
  method : String
  site : Site
  target : Target
  headers : List (String × String)

/-- Why a request cannot be made. -/
inductive RequestFlaw
  | address (flaw : AddressFlaw)
  /-- The host in the address stands for no name. -/
  | label (bad : BadLabel)
  /-- A header holds these characters, which are not ASCII, at a place. -/
  | beyondAscii (characters : List Char) (position : Nat)
  deriving DecidableEq, Repr

namespace RequestFlaw

def extent (characters : List Char) (position : Nat) : String :=
  match characters with
  | [character] =>
    "character '" ++ .ofList (Quoted.numericEscape character.toNat) ++ "' in position " ++
      toString position
  | _ =>
    "characters in position " ++ toString position ++ "-" ++
      toString (position + characters.length - 1)

def message : RequestFlaw → String
  | address flaw => flaw.message
  | label bad => bad.message
  | beyondAscii characters position =>
    "'ascii' codec can't encode " ++ extent characters position ++ ": ordinal not in range(128)"

end RequestFlaw

namespace Request

/-! ## Making a request -/

/-- The first characters in a text of a header that are not ASCII. -/
def headerFlaw? (text : List Char) : Option RequestFlaw :=
  match text.dropWhile (·.toNat < 0x80) with
  | [] => none
  | rest => some (.beyondAscii (rest.takeWhile (0x80 ≤ ·.toNat)) (text.length - rest.length))

/-- Make a request for an address, which is looked up on a site. -/
def make (base : Site) (method address : String) (headers : List (String × String)) :
    Except RequestFlaw Request := do
  let written ← (Address.parse address.toList).mapError .address
  let found ← (written.resolve base).mapError .address
  if let some flaw := headers.findSome? fun header =>
      (headerFlaw? header.1.toList).or (headerFlaw? header.2.toList) then
    throw flaw
  let _named ← found.site.hostName.mapError .label
  return ⟨method, found.site, .ofAddress found, headers⟩

/-! ## Headers -/

/-- The text of a header, whatever the case of its name. -/
def header? (request : Request) (name : String) : Option String :=
  (request.headers.find? fun entry => Case.lower entry.1 == name).map Prod.snd

/-- The origin that the request names; the empty text if it names none. -/
def origin (request : Request) : String := (request.header? "origin").getD ""

/-- The text by which the request names the host that it is meant for. It is that of its site unless
a header gives another. -/
def hostText (request : Request) : List Char :=
  ((request.header? "host").map String.toList).getD request.site.text

/-! ## Addresses on the host of a request -/

/-- The site of the request in one text, if its scheme has a service port. A port that is not given
is written as the word None, which makes no address. -/
def siteText? (request : Request) : Option (List Char) :=
  (Site.servicePort? request.site.scheme).map fun usual =>
    Host.bracketed (request.site.hostName.toOption.getD request.site.host) ++
      if request.site.port = some usual then []
      else ':' :: (request.site.port.elim "None" toString).toList

/-- The address of another path on the host that the request is meant for, with the query of the
request. A host that is not named as it should be is passed over for the site. -/
def addressOf? (request : Request) (path : List Char) : Option String :=
  let authority :=
    if Host.isNamed request.hostText then some request.hostText else request.siteText?
  authority.map fun text => { request.target with path := path }.write request.site.scheme text

end Request

end ArenaStandings
