import ArenaStandings.Connection.Basic

/-!
# Indexes

The reads of the leaderboard and of arenas are served by six indexes. They are made one after the
other, and the first that cannot be made ends the making.
-/

namespace ArenaStandings

/-- The fields of an index: one, or several in order. -/
inductive IndexFields
  | one (field : String)
  | several (fields : List String)
  deriving DecidableEq, Repr

structure Index where
  shelf : Shelf
  fields : IndexFields
  unique : Bool
  deriving DecidableEq, Repr

/-- What making the indexes comes to. -/
structure Indexing where
  made : List Index
  result : Except Failure Unit
  lines : List LogLine

namespace Index

/-- The indexes that the reads need. -/
def needed : List Index := [
  ⟨.rounds, .one "state", false⟩,
  ⟨.rounds, .several ["arena_id", "round_number"], false⟩,
  ⟨.eliminations, .one "user_id", false⟩,
  ⟨.eliminations, .one "round_id", false⟩,
  ⟨.eliminations, .several ["round_id", "user_id"], true⟩,
  ⟨.users, .one "wallet_address", true⟩]

def madeLine : LogLine := .info "✅ Indexes created successfully"

/-- Make indexes in order up to the first that fails, and say which were made. -/
def make (database : Database) : List Index → List Index × Except Failure Unit
  | [] => ([], .ok ())
  | index :: rest =>
    match database.faults.lookup index.shelf with
    | some fault => ([], .error (.raised fault))
    | none =>
      let (made, result) := make database rest
      (index :: made, result)

end Index

namespace Connection

/-- Make the needed indexes on the database that is held; a line is logged when all are made. -/
def makeIndexes (connection : Connection) : Indexing :=
  match connection.getDatabase with
  | .error failure => ⟨[], .error failure, []⟩
  | .ok database =>
    match Index.make database Index.needed with
    | (made, .ok ()) => ⟨made, .ok (), [Index.madeLine]⟩
    | (made, .error failure) => ⟨made, .error failure, []⟩

end Connection

end ArenaStandings
