import ArenaStandings.Schema.Reader

/-!
# The records of the game

The rounds, eliminations, arenas and users of the game, each with the check that makes it from a
stored record and the record that it is written as.
-/

namespace ArenaStandings

/-- The state of a round that has been resolved. -/
def resolvedState : String := "RESOLVED"

structure Identity where
  id : String
  wallet : String
  deriving DecidableEq

structure Round where
  id : String
  arenaId : String
  number : Int
  state : String
  /-- The bag that was left on the round. -/
  metadata : Value

/-- What the standings need of a resolved round. -/
structure ResolvedRound where
  arenaId : String
  /-- The bag that was left on the round. -/
  metadata : Value

structure Elimination where
  userId : String
  roundId : Option String
  arenaId : String
  deriving DecidableEq

structure Arena where
  id : String
  metadata : Option Record

namespace Identity

def read (fields : Record) : Checked Identity :=
  Identity.mk <$> Schema.field fields ["_id", "id"] Reader.text
    <*> Schema.field fields ["wallet_address"] Reader.text

def toValue (identity : Identity) : Value :=
  .record [("_id", .text identity.id), ("wallet_address", .text identity.wallet)]

end Identity

namespace Round

def read (fields : Record) : Checked Round :=
  Round.mk <$> Schema.field fields ["_id", "id"] Reader.text
    <*> Schema.field fields ["arena_id"] Reader.text
    <*> Schema.optional fields ["round_number"] Reader.integer 0
    <*> Schema.optional fields ["state"] Reader.text "OPEN"
    <*> Schema.optional fields ["metadata"] Reader.any .null

def toValue (round : Round) : Value :=
  .record [
    ("_id", .text round.id),
    ("arena_id", .text round.arenaId),
    ("round_number", .int round.number),
    ("state", .text round.state),
    ("metadata", round.metadata)]

end Round

namespace ResolvedRound

def read (fields : Record) : Checked ResolvedRound :=
  ResolvedRound.mk <$> Schema.field fields ["arena_id"] Reader.text
    <*> Schema.optional fields ["metadata"] Reader.any .null

def toValue (round : ResolvedRound) : Value :=
  .record [("arena_id", .text round.arenaId), ("metadata", round.metadata)]

end ResolvedRound

namespace Elimination

def read (fields : Record) : Checked Elimination :=
  Elimination.mk <$> Schema.field fields ["user_id"] Reader.text
    <*> Schema.optional fields ["round_id"] (Reader.orNull Reader.text) none
    <*> Schema.field fields ["arena_id"] Reader.text

def toValue (elimination : Elimination) : Value :=
  .record [
    ("user_id", .text elimination.userId),
    ("round_id", elimination.roundId.elim .null .text),
    ("arena_id", .text elimination.arenaId)]

end Elimination

namespace Arena

def read (fields : Record) : Checked Arena :=
  Arena.mk <$> Schema.field fields ["_id", "id"] Reader.text
    <*> Schema.optional fields ["metadata"] (Reader.orNull Reader.record) none

def toValue (arena : Arena) : Value :=
  .record [("_id", .text arena.id), ("metadata", arena.metadata.elim .null .record)]

end Arena

end ArenaStandings
