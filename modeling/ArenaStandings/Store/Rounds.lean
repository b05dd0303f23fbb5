import ArenaStandings.Game.Record
import ArenaStandings.Store.Basic
import ArenaStandings.Store.Order

/-!
# Reading rounds

Documents of rounds may lack what is asked for. A resolved round without an arena and a round of an
arena that does not pass its check are skipped, each with a warning.
-/

namespace ArenaStandings

namespace ResolvedRound

/-- The value of a document that a text is made of: its arena, or its identifier if there is
none. -/
def label (document : Record) : Value :=
  if (document.get "arena_id").isNull then document.get "_id" else document.get "arena_id"

/-- The resolved round of a document, if it names an arena. -/
def ofDocument? (document : Record) : Option ResolvedRound :=
  if (document.get "arena_id").isNull then none
  else some ⟨(document.get "arena_id").toText, document.get "metadata"⟩

def warning? (document : Record) : Option LogLine :=
  if (document.get "arena_id").isNull then
    some (.warning
      ("Skipping resolved round " ++ (document.get "_id").toText ++ " without arena_id"))
  else none

/-- The resolved rounds. -/
def readAll : Read (List ResolvedRound) := Read.part .resolvedRounds do
  let documents ← Read.find ⟨.rounds, .equals "state" resolvedState⟩
  Read.requireLegible (documents.map label)
  Read.log (documents.filterMap warning?)
  return documents.filterMap ofDocument?

end ResolvedRound

namespace Round

/-- Check a document of a round; any identifier counts as its text. -/
def ofDocument (document : Record) : Checked Round :=
  Round.read (document.set "_id" (.text (document.get "_id").toText))

/-- The warning about a document that does not pass its check. -/
def warning? (arenaId : String) (document : Record) : Option LogLine :=
  match ofDocument document with
  | .valid _ => none
  | .invalid _ =>
    some (.warning ("Skipping malformed round " ++ (document.get "_id").toText ++ " of arena " ++
      arenaId))

/-- Documents in the order of their round numbers as they are stored. -/
def inOrder (documents : List Record) : List Record :=
  documents.mergeSort fun first second =>
    (first.get "round_number").mayPrecede (second.get "round_number")

def readOfArena (arenaId : String) : Read (List Round) := Read.part .arenaRounds do
  let documents := inOrder (← Read.find ⟨.rounds, .equals "arena_id" arenaId⟩)
  Read.requireLegible (documents.map (·.get "_id"))
  Read.log (documents.filterMap (warning? arenaId))
  return documents.filterMap fun document => (ofDocument document).toOption

end Round

/-- The arenas of rounds, by round, as the documents name them; of two documents of one round the
later counts. -/
def arenasOfRounds (documents : List Record) : Table String String :=
  .ofList (documents.filterMap fun document =>
    if (document.get "arena_id").isNull then none
    else some ((document.get "_id").toText, (document.get "arena_id").toText))

/-- The arenas of the rounds with these identifiers, in one query; none if there are none. -/
def readArenasOfRounds (roundIds : List String) : Read (Table String String) :=
  if roundIds.isEmpty then pure .empty
  else do
    let documents ← Read.find ⟨.rounds, .among "_id" roundIds⟩
    Read.requireLegible (documents.map (·.get "arena_id"))
    return arenasOfRounds documents

end ArenaStandings
