import ArenaStandings.Schema.Reader

/-!
# Standings

A `Standing` is a player's line in the ranking.
-/

namespace ArenaStandings

/-- A player's line in the ranking; the rank is zero until the line is ranked. -/
structure Standing where
  id : String
  rank : Int
  wallet : String
  totalYield : Float
  arenasWon : Int
  survivalStreak : Int
  deriving DecidableEq

namespace Standing

def read (fields : Record) : Checked Standing :=
  Standing.mk <$> Schema.field fields ["id"] Reader.text
    <*> Schema.optional fields ["rank"] Reader.integer 0
    <*> Schema.field fields ["walletAddress", "wallet_address"] Reader.text
    <*> Schema.field fields ["totalYield", "total_yield"] Reader.double
    <*> Schema.field fields ["arenasWon", "arenas_won"] Reader.integer
    <*> Schema.field fields ["survivalStreak", "survival_streak"] Reader.integer

def toValue (standing : Standing) : Value :=
  .record [
    ("id", .text standing.id),
    ("rank", .int standing.rank),
    ("walletAddress", .text standing.wallet),
    ("totalYield", .float standing.totalYield),
    ("arenasWon", .int standing.arenasWon),
    ("survivalStreak", .int standing.survivalStreak)]

end Standing

end ArenaStandings
