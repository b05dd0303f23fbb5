import ArenaStandings.Failure
import ArenaStandings.Text.Glob

/-!
# Cache keys

A page of the leaderboard is kept under its length and offset, the figures of an arena under its
identifier. One pattern covers the keys of all pages.
-/

namespace ArenaStandings

namespace CacheKey

def leaderboardWord : String := "leaderboard"

/-- The key of the page of a length at an offset. -/
def leaderboard (limit offset : Int) : String :=
  leaderboardWord ++ ":" ++ toString limit ++ ":" ++ toString offset

def arenaStats (arenaId : String) : String := "arena:" ++ arenaId ++ ":stats"

/-- The text of a value in a key, if it can be written. -/
def write (value : Value) : Except Failure String :=
  if value.isLegible then .ok value.toText else .error .tooManyDigits

/-- The key of a page with any values in the places of its length and offset. -/
def writeLeaderboard (limit offset : Value) : Except Failure String := do
  return leaderboardWord ++ ":" ++ (← write limit) ++ ":" ++ (← write offset)

/-- The key of the figures of an arena with any value in the place of its identifier. -/
def writeArenaStats (arenaId : Value) : Except Failure String := do
  return arenaStats (← write arenaId)

def leaderboardPattern : String := leaderboardWord ++ ":*"

end CacheKey

end ArenaStandings
