import ArenaStandings.Game.Record
import ArenaStandings.Store.Basic

/-!
# Reading identities and arenas

Users are looked up together, by their identifiers; one without a wallet cannot be shown and is
skipped with a warning. An arena is looked up by its identifier, and its document must pass the
check.
-/

namespace ArenaStandings

namespace Identity

/-- The identity of a document, if its wallet is a text. -/
def ofDocument? (document : Record) : Option Identity :=
  (document.get "wallet_address").text?.map fun wallet => ⟨(document.get "_id").toText, wallet⟩

def warning? (document : Record) : Option LogLine :=
  if (document.get "wallet_address").text?.isSome then none
  else some (.warning
    ("Skipping user " ++ (document.get "_id").toText ++ " without wallet_address"))

/-- The identities of these users, in the order of their documents. -/
def readByIds (userIds : List String) : Read (List Identity) := Read.part .users do
  if userIds.isEmpty then return []
  else
    let documents ← Read.find ⟨.users, .among "_id" userIds⟩
    Read.log (documents.filterMap warning?)
    return documents.filterMap ofDocument?

end Identity

namespace Arena

def readById (arenaId : String) : Read (Option Arena) := Read.part .arena do
  match ← Read.findFirst ⟨.arenas, .equals "_id" arenaId⟩ with
  | none => return none
  | some document => some <$> Read.ofChecked (Arena.read document)

end Arena

end ArenaStandings
