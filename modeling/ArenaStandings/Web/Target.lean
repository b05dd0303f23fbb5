import ArenaStandings.Web.Address

/-!
# Request targets

A request is made for a target: a path and perhaps a query. `Target.ofAddress` takes it from an
address and decodes the octets that are percent-encoded in the path; `Target.parameters` reads the
query into named parameters, in which a plus sign is a space. `Target.write` goes back to the text
of an address.
-/

namespace ArenaStandings

/-- What a request is made for. -/
structure Target where
  /-- The decoded path. -/
  path : List Char
  /-- The query as it was written. -/
  query : List Char

namespace Target

/-- The target of an address. An empty path is the root. -/
def ofAddress (address : Address) : Target :=
  ⟨if address.path = [] then ['/'] else Percent.decode address.path, address.query⟩

/-- The text of a name or a value in a query. -/
def decodeParameter (text : List Char) : String :=
  .ofList (Percent.decode (text.map fun character => if character = '+' then ' ' else character))

/-- The parameters of the query, in order. A parameter without a value has an empty one. -/
def parameters (target : Target) : List (String × String) :=
  ((Split.all '&' target.query).filter (· ≠ [])).map fun part =>
    let (name, value) := Split.first '=' part
    (decodeParameter name, decodeParameter value)

/-- The value of a parameter; of repeated ones the last counts. -/
def parameter? (target : Target) (name : String) : Option String :=
  (target.parameters.reverse.find? fun entry => entry.1 == name).map Prod.snd

/-- The characters that an address keeps as they are. -/
def isKept (character : Char) : Bool :=
  Percent.isUnreserved character || ":/%#?=@[]!$&\x27()*+,;".toList.contains character

/-- The characters that a path in an address keeps as they are; the marks that end a path are not
among them. -/
def isKeptInPath (character : Char) : Bool :=
  isKept character && character != '?' && character != '#'

def write (scheme authority : List Char) (target : Target) : String :=
  let mark := if target.query = [] then [] else '?' :: Percent.encode isKept target.query
  .ofList (scheme ++ "://".toList ++ Percent.encode isKept authority ++
    Percent.encode isKeptInPath target.path ++ mark)

end Target

end ArenaStandings
