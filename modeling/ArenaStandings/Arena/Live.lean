import ArenaStandings.Arena.Stats
import ArenaStandings.Store.Eliminations
import ArenaStandings.Store.Identities

/-!
# The live figures of an arena

The figures are computed from what the storage holds at the moment: the arena, its rounds in order,
and the eliminations from those rounds.
-/

namespace ArenaStandings

namespace ArenaStats

/-- The figures of the arena with an identifier, at a moment. -/
def readLive (arenaId moment : String) : Read ArenaStats := do
  match ← Arena.readById arenaId with
  | none => Read.fail (.unknownArena arenaId)
  | some arena =>
    let rounds ← Round.readOfArena arenaId
    let eliminations ← Elimination.readOfRounds (rounds.map Round.id)
    Read.ofChecked (compute arenaId arena rounds eliminations moment)

end ArenaStats

end ArenaStandings
