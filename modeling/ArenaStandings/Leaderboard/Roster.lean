import ArenaStandings.Leaderboard.Tally
import ArenaStandings.Log
import ArenaStandings.Sorting.Adaptive

/-!
# The roster and its order

`Roster.join` puts tallies and identities together; a tally without an identity is dropped.
`Roster.rank` orders standings by what was paid, then by arenas won, both from high to low, then by
user from low to high, and numbers them from one.
-/

namespace ArenaStandings

namespace Roster

/-- The standing of a tally, not yet ranked. -/
def standing (userId wallet : String) (tally : Tally) : Standing :=
  { id := userId
    rank := 0
    wallet := wallet
    totalYield := tally.totalYield
    arenasWon := tally.arenasWon
    survivalStreak := tally.survivalStreak }

/-- The wallet of each identity; of two with one user the later counts. -/
def wallets (identities : List Identity) : Table String String :=
  .ofList (identities.map fun identity => (identity.id, identity.wallet))

/-- The standings of the tallies whose user has an identity, in the order of the tallies. -/
def join (tallies : Tally.All) (identities : List Identity) : List Standing :=
  let known := wallets identities
  tallies.rows.filterMap fun row =>
    (known.find? row.1).map fun wallet => standing row.1 wallet row.2

/-- What is logged about tallies without an identity. -/
def orphanLines (tallies : Tally.All) (standings : List Standing) : List LogLine :=
  let dropped := tallies.size - standings.length
  if dropped = 0 then []
  else [.debug ("Dropped " ++ toString dropped ++ " orphaned player record(s)")]

/-- Must the first standing come before the second? Neither must if they differ in nothing that the
order looks at, or if what was paid to one of them is not a number. -/
def precedes (first second : Standing) : Bool :=
  if first.totalYield == second.totalYield then
    if first.arenasWon = second.arenasWon then first.id < second.id
    else second.arenasWon < first.arenasWon
  else second.totalYield < first.totalYield

/-- Number standings in their order, from a rank on. -/
def number : Nat → List Standing → List Standing
  | _, [] => []
  | rank, standing :: rest => { standing with rank := rank } :: number (rank + 1) rest

/-- Do all standings have a number for what was paid? Then they can all be compared. -/
def areComparable (standings : List Standing) : Bool :=
  standings.all fun standing => !standing.totalYield.isNaN

/-- Standings in their order; two of which neither must come first stay as they are. Where some
cannot be compared, there is no order, and sorting by runs says what comes out. -/
def inOrder (standings : List Standing) : List Standing :=
  if areComparable standings then standings.mergeSort fun first second => !precedes second first
  else Sorting.adaptive precedes standings

/-- Order standings and number them from one. -/
def rank (standings : List Standing) : List Standing := number 1 (inOrder standings)

end Roster

end ArenaStandings
