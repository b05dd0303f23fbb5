import ArenaStandings.Leaderboard.Page
import ArenaStandings.Leaderboard.Roster
import ArenaStandings.Store.Eliminations
import ArenaStandings.Store.Identities

/-!
# The leaderboard

The ranking is rebuilt from the storage: resolved rounds and eliminations become tallies, the
identities of their users are looked up together, and the standings are ranked. A failure of any
read is a failure of the whole.
-/

namespace ArenaStandings

namespace Leaderboard

/-- The most standings on a page, unless a request asks for another number. -/
def defaultLimit : Int := 20

/-- The users of tallies, in ascending order. -/
def usersOf (tallies : Tally.All) : List String := tallies.keys.mergeSort (· ≤ ·)

/-- The whole ranking. The resolved rounds and the eliminations are asked for together, without
waiting for the rounds first. Reads that fail at once end in the order in which they were started,
so a failure of the rounds counts before one of the eliminations; hence the one read stands before
the other here. -/
def readRanked : Read (List Standing) := do
  let rounds ← ResolvedRound.readAll
  let eliminations ← Elimination.readAll
  let tallies := Tally.collect rounds eliminations
  if tallies.keys.isEmpty then return []
  else
    let identities ← Identity.readByIds (usersOf tallies)
    let standings := Roster.join tallies identities
    let ranked := Roster.rank standings
    Read.log (Roster.orphanLines tallies standings ++
      [.debug ("Leaderboard rebuilt: " ++ toString rounds.length ++ " rounds, " ++
        toString eliminations.length ++ " eliminations, " ++ toString ranked.length ++
        " players")])
    return ranked

/-- The page of a length that begins where a cursor points. -/
def readPage (limit : Int) (cursor : Option String) : Read Page := do
  let ranked ← readRanked
  match Page.cut ranked limit cursor with
  | .ok page => return page
  | .error failure => Read.fail failure

end Leaderboard

end ArenaStandings
