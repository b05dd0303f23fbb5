import ArenaStandings.Game.Metadata
import ArenaStandings.Game.Record
import ArenaStandings.Text.Case

/-!
# The figures of an arena

`ArenaStats.compute` takes an arena with its rounds, in order, and the eliminations from them. The
players are those who chose in the first round; the survivors are as many fewer as there are
eliminated users; the pot is what is staked in the latest round, which also gives the status; the
yield is summed over the resolved rounds.
-/

namespace ArenaStandings

structure ArenaStats where
  arenaId : String
  currentPot : Float
  playerCount : Int
  survivorCount : Int
  currentRound : Int
  entryFee : Float
  yieldAccrued : Float
  status : String
  lastUpdated : String

namespace ArenaStats

def read (fields : Record) : Checked ArenaStats :=
  ArenaStats.mk <$> Schema.field fields ["arenaId", "arena_id"] Reader.text
    <*> Schema.field fields ["currentPot", "current_pot"] Reader.double
    <*> Schema.field fields ["playerCount", "player_count"] Reader.integer
    <*> Schema.field fields ["survivorCount", "survivor_count"] Reader.integer
    <*> Schema.field fields ["currentRound", "current_round"] Reader.integer
    <*> Schema.field fields ["entryFee", "entry_fee"] Reader.double
    <*> Schema.field fields ["yieldAccrued", "yield_accrued"] Reader.double
    <*> Schema.field fields ["status"] Reader.text
    <*> Schema.field fields ["lastUpdated", "last_updated"] Reader.instant

def toValue (stats : ArenaStats) : Value :=
  .record [
    ("arenaId", .text stats.arenaId),
    ("currentPot", .float stats.currentPot),
    ("playerCount", .int stats.playerCount),
    ("survivorCount", .int stats.survivorCount),
    ("currentRound", .int stats.currentRound),
    ("entryFee", .float stats.entryFee),
    ("yieldAccrued", .float stats.yieldAccrued),
    ("status", .text stats.status),
    ("lastUpdated", .text stats.lastUpdated)]

/-- The plain sum of doubles: they are added from left to right, starting at zero, and each addition
is rounded. A compensated sum, which makes up for what rounding loses on the way, may differ in its
last digits. -/
def total (amounts : List Float) : Float := amounts.foldl (· + ·) 0

/-- The stake that an arena asks for: a number, and zero for anything else. An integer beyond the
doubles is an issue. -/
def feeOf (arena : Arena) : Checked Float :=
  match Record.get (arena.metadata.getD []) "minStake" with
  | .int n => (Reader.double (.int n)).under (.key "entry_fee")
  | .float x => .valid (if x == 0 then 0 else x)
  | _ => .valid 0

/-- The number of players who chose in the first round. -/
def playersOf (rounds : List Round) : Nat :=
  rounds.head?.elim 0 fun round => (Metadata.ofValue round.metadata).choices.length

/-- What is staked in the latest round. -/
def potOf (rounds : List Round) : Float :=
  rounds.getLast?.elim 0 fun round =>
    total ((Metadata.ofValue round.metadata).choices.map Choice.stake)

/-- The yield of the resolved rounds. -/
def yieldOf (rounds : List Round) : Float :=
  total ((rounds.filter fun round => round.state == resolvedState).map fun round =>
    (Metadata.ofValue round.metadata).oracleYield)

def eliminatedOf (eliminations : List Elimination) : Names :=
  .ofList (eliminations.map Elimination.userId)

/-- The figures of an arena at a moment, from its rounds in order and the eliminations from them. -/
def compute (arenaId : String) (arena : Arena) (rounds : List Round)
    (eliminations : List Elimination) (moment : String) : Checked ArenaStats :=
  (feeOf arena).map fun fee =>
    { arenaId := arenaId
      currentPot := potOf rounds
      playerCount := playersOf rounds
      survivorCount := (playersOf rounds - (eliminatedOf eliminations).size : Nat)
      currentRound := rounds.getLast?.elim 0 Round.number
      entryFee := fee
      yieldAccrued := yieldOf rounds
      status := rounds.getLast?.elim "pending" fun round => Case.lower round.state
      lastUpdated := moment }

end ArenaStats

end ArenaStandings
