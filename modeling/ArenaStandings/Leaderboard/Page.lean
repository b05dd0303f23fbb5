import ArenaStandings.Leaderboard.Cursor
import ArenaStandings.Leaderboard.Standing

/-!
# Pages

A `Page` is a stretch of the ranking with a cursor to the next one, if there is more. `Page.cut`
takes the stretch of a length that begins where a cursor points. A stretch that would end before the
start of the ranking ends that far from its end.
-/

namespace ArenaStandings

/-- A stretch of the ranking and the cursor to the next. -/
structure Page where
  players : List Standing
  nextCursor : Option String

namespace Page

/-- The elements from a place up to an end; a negative end counts from the end of the list. -/
def stretch {α : Type} (list : List α) (start : Nat) (stop : Int) : List α :=
  let last := if stop < 0 then (list.length + stop).toNat else stop.toNat
  (list.take last).drop start

/-- The page of a length that begins where a cursor points. -/
def cut (ranked : List Standing) (limit : Int) (cursor : Option String) : Except Failure Page := do
  let offset ← Cursor.decode cursor
  let stop : Int := offset + limit
  let next ← if stop < ranked.length then some <$> Cursor.write (.int stop) else pure none
  return ⟨stretch ranked offset stop, next⟩

def read (fields : Record) : Checked Page :=
  Page.mk <$> Schema.field fields ["players"]
    (Reader.list (Reader.part "PlayerStats" Standing.read))
    <*> Schema.optional fields ["nextCursor", "next_cursor"] (Reader.orNull Reader.text) none

def toValue (page : Page) : Value :=
  .record [
    ("players", .list (page.players.map Standing.toValue)),
    ("nextCursor", page.nextCursor.elim .null .text)]

end Page

end ArenaStandings
