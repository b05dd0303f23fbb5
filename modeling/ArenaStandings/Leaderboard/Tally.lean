import ArenaStandings.Game.Metadata
import ArenaStandings.Game.Record
import ArenaStandings.Leaderboard.Standing

/-!
# Tallies

A `Tally` gathers what the resolved rounds and the eliminations say about one player: what was paid,
the arenas taken part in and lost, and how many rounds and eliminations there were. `Tally.collect`
makes the tallies of all players. An arena is won if the player took part in it and was never
eliminated from it.
-/

namespace ArenaStandings

/-- What the game says about one player. -/
structure Tally where
  totalYield : Float
  /-- The arenas that the player took part in. -/
  played : Names
  /-- The arenas that the player was eliminated from. -/
  lost : Names
  roundCount : Int
  eliminationCount : Int

namespace Tally

def empty : Tally := ⟨0, .empty, .empty, 0, 0⟩

def addChoice (tally : Tally) (arenaId : String) : Tally :=
  { tally with played := tally.played.insert arenaId, roundCount := tally.roundCount + 1 }

def addPayout (tally : Tally) (amount : Float) : Tally :=
  { tally with totalYield := tally.totalYield + amount }

/-- Count an elimination from an arena. The player took part there, even if no choice says so. -/
def addElimination (tally : Tally) (arenaId : String) : Tally :=
  { tally with
    played := tally.played.insert arenaId
    lost := tally.lost.insert arenaId
    eliminationCount := tally.eliminationCount + 1 }

/-- The number of arenas played and not lost. -/
def arenasWon (tally : Tally) : Nat := (tally.played.diff tally.lost).size

/-- The rounds less the eliminations, and zero if there are more eliminations. -/
def survivalStreak (tally : Tally) : Int := max 0 (tally.roundCount - tally.eliminationCount)

/-- The tallies of all players, by user. -/
abbrev All := Table String Tally

/-- Change a player's tally, which is empty if there is none yet. -/
def All.update (all : All) (userId : String) (change : Tally → Tally) : All :=
  all.alter userId fun tally => change (tally.getD empty)

/-- Add a round: first its choices, then its payouts. -/
def All.addRound (all : All) (round : ResolvedRound) : All :=
  let metadata := Metadata.ofValue round.metadata
  let chosen := metadata.choices.foldl
    (fun all choice => all.update choice.userId (·.addChoice round.arenaId)) all
  metadata.payouts.foldl (fun all payout => all.update payout.userId (·.addPayout payout.amount))
    chosen

def All.addElimination (all : All) (elimination : Elimination) : All :=
  all.update elimination.userId (·.addElimination elimination.arenaId)

/-- The tallies that rounds and eliminations make. -/
def collect (rounds : List ResolvedRound) (eliminations : List Elimination) : All :=
  eliminations.foldl All.addElimination (rounds.foldl All.addRound .empty)

def read (fields : Record) : Checked (String × Tally) :=
  (fun userId totalYield played lost roundCount eliminationCount =>
      (userId, ⟨totalYield, played, lost, roundCount, eliminationCount⟩))
    <$> Schema.field fields ["user_id"] Reader.text
    <*> Schema.optional fields ["total_yield"] Reader.double 0
    <*> Schema.optional fields ["arenas_participated"] Reader.names .empty
    <*> Schema.optional fields ["arenas_eliminated_in"] Reader.names .empty
    <*> Schema.optional fields ["rounds_participated"] Reader.integer 0
    <*> Schema.optional fields ["elimination_count"] Reader.integer 0

/-- A set of names as a list in ascending order. -/
def namesValue (names : Names) : Value := .list (names.sorted.map .text)

/-- A user's tally as a record, with what follows from it. -/
def toValue (userId : String) (tally : Tally) : Value :=
  .record [
    ("user_id", .text userId),
    ("total_yield", .float tally.totalYield),
    ("arenas_participated", namesValue tally.played),
    ("arenas_eliminated_in", namesValue tally.lost),
    ("rounds_participated", .int tally.roundCount),
    ("elimination_count", .int tally.eliminationCount),
    ("arenas_won", .int tally.arenasWon),
    ("survival_streak", .int tally.survivalStreak)]

end Tally

end ArenaStandings
