import ArenaStandings.Store.Rounds

/-!
# Reading eliminations

Newer documents of eliminations name the arena. For older ones it is that of their round, and one
query fetches the arenas of all those rounds. A document without a user is skipped with a warning,
one without an arena silently.
-/

namespace ArenaStandings

namespace Elimination

/-- The text of a document's round, if it names one. -/
def roundId? (document : Record) : Option String :=
  if (document.get "round_id").isNull then none else some (document.get "round_id").toText

/-- Must the arena of the document be looked up by its round? -/
def lacksArena (document : Record) : Bool :=
  !(document.get "arena_id").isTruthy && !(document.get "round_id").isNull

/-- The rounds whose arenas must be looked up, in ascending order, each once. -/
def lookedUp (documents : List Record) : List String :=
  (Names.ofList ((documents.filter lacksArena).filterMap roundId?)).sorted

/-- The arena of a document: its own, or that of its round. An empty text is no arena. -/
def arenaId? (arenas : Table String String) (document : Record) : Option String :=
  let own := document.get "arena_id"
  if own.isTruthy then some own.toText
  else ((roundId? document).bind arenas.find?).filter (· ≠ "")

/-- The values of a document that texts are made of. -/
def labels (arenas : Table String String) (document : Record) : List Value :=
  let user := document.get "user_id"
  if user.isNull then [document.get "_id"]
  else
    document.get "round_id" ::
      if (arenaId? arenas document).isNone then []
      else user ::
        if (document.get "arena_id").isTruthy then [document.get "arena_id"] else []

/-- The elimination of a document, if it has a user and an arena. -/
def ofDocument? (arenas : Table String String) (document : Record) : Option Elimination :=
  let user := document.get "user_id"
  if user.isNull then none
  else (arenaId? arenas document).map fun arenaId => ⟨user.toText, roundId? document, arenaId⟩

def warning? (document : Record) : Option LogLine :=
  if (document.get "user_id").isNull then
    some (.warning
      ("Skipping elimination log " ++ (document.get "_id").toText ++ " without user_id"))
  else none

def ofDocuments (documents : List Record) : Read (List Elimination) := do
  Read.requireLegible ((documents.filter lacksArena).map (·.get "round_id"))
  let arenas ← readArenasOfRounds (lookedUp documents)
  Read.requireLegible (documents.flatMap (labels arenas))
  Read.log (documents.filterMap warning?)
  return documents.filterMap (ofDocument? arenas)

/-- All eliminations. -/
def readAll : Read (List Elimination) := Read.part .eliminations do
  ofDocuments (← Read.find ⟨.eliminations, .all⟩)

def readOfRounds (roundIds : List String) : Read (List Elimination) := Read.part .eliminations do
  if roundIds.isEmpty then return []
  else ofDocuments (← Read.find ⟨.eliminations, .among "round_id" roundIds⟩)

end Elimination

end ArenaStandings
