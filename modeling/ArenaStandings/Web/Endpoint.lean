import ArenaStandings.Web.Manual

/-!
# Endpoints

The service has an endpoint that names it, one for its health, one for the leaderboard, one for the
figures of each arena, and one for each page of its manual. A path leads to an endpoint if it is the
endpoint's path, perhaps with one line break after it. A path that leads nowhere may lead somewhere
with its trailing slashes taken away, or with one slash added.
-/

namespace ArenaStandings

/-- What the service answers for. -/
inductive Endpoint
  | root
  | health
  | leaderboard
  | arenaStats (arenaId : String)
  | manual (page : ManualPage)
  deriving DecidableEq, Repr

namespace Endpoint

def arenaStart : List Char := "/api/arenas/".toList

def arenaEnd : List Char := "/stats".toList

/-- The arena whose figures a path is for: the text between the two parts, without a slash and not
empty. -/
def arenaId? (path : List Char) : Option String :=
  if arenaStart.isPrefixOf path && arenaEnd.isSuffixOf path then
    let middle := path.drop arenaStart.length
    let id := middle.take (middle.length - arenaEnd.length)
    if id.isEmpty || id.contains '/' || middle.length < arenaEnd.length then none
    else some (.ofList id)
  else none

def ofExactPath? (path : List Char) : Option Endpoint :=
  if path = "/".toList then some .root
  else if path = "/health".toList then some .health
  else if path = "/api/leaderboard".toList then some .leaderboard
  else
    match ManualPage.ofPath? path with
    | some page => some (.manual page)
    | none => (arenaId? path).map .arenaStats

def ofPath? (path : List Char) : Option Endpoint :=
  match ofExactPath? path with
  | some endpoint => some endpoint
  | none => if path.getLast? = some '\n' then ofExactPath? path.dropLast else none

/-- The path without its trailing slashes, or with one added if it has none. -/
def toggleSlash (path : List Char) : List Char :=
  if path.getLast? = some '/' then (path.reverse.dropWhile (· = '/')).reverse else path ++ ['/']

/-- The path of an endpoint to which a path that leads nowhere is redirected. -/
def redirect? (path : List Char) : Option (List Char) :=
  if path ≠ ['/'] ∧ (ofPath? (toggleSlash path)).isSome then some (toggleSlash path) else none

end Endpoint

end ArenaStandings
