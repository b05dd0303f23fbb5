import ArenaStandings.Text.Split
import ArenaStandings.Web.Label

/-!
# Host names

A host name is a row of labels between points. `HostName.encode?` writes a name beyond ASCII in
ASCII, as it stands in an address, and `HostName.decode` gives the name that is meant by such a
host. The last label may be empty.
-/

namespace ArenaStandings

namespace HostName

/-- The characters that count as points. -/
def points : List Char := ['.', '\u3002', '\uff0e', '\uff61']

/-- The labels of a name, and whether a point follows the last of them. -/
def labels (name : List Char) : List (List Char) × Bool :=
  let parts := Split.all '.' (name.map fun character =>
    if points.contains character then '.' else character)
  if parts.getLast? = some [] then (parts.dropLast, true) else (parts, false)

def ofLabels (parts : List (List Char)) (pointed : Bool) : List Char :=
  List.intercalate ['.'] parts ++ if pointed then ['.'] else []

/-- The most characters that a name in an address may have, a last point aside. -/
def longest : Nat := 253

/-- The text that stands for a name in an address, if it is a name. -/
def encode? (name : List Char) : Option (List Char) := do
  let (parts, pointed) := labels name
  let encoded := ofLabels (← (parts.mapM Label.encode).toOption) pointed
  if longest + pointed.toNat < encoded.length then none
  return encoded

/-- The name for which a host of an address stands. Only one that begins with an encoded label is
looked at. -/
def decode (host : List Char) : Except BadLabel (List Char) := do
  if !Label.encodedStart.isPrefixOf host then return host
  let (parts, pointed) := labels host
  return ofLabels (← parts.mapM Label.decode) pointed

end HostName

end ArenaStandings
