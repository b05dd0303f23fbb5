import ArenaStandings.Text.MarkTable

/-!
# Marks

A mark belongs to the character before it. Its combining class says where it stands: marks of
different classes do not touch each other, and the class zero is that of all characters that keep
their place.
-/

namespace ArenaStandings

namespace Mark

/-- The run of a mark. -/
def find? (character : Char) : Option MarkTable.Run :=
  if character.toNat < 0x300 then none
  else MarkTable.runs.find? fun run =>
    run.first ≤ character.toNat && character.toNat ≤ run.last

def isMark (character : Char) : Bool := (find? character).isSome

/-- Is the character a mark that takes no room? -/
def isNonspacing (character : Char) : Bool := (find? character).any fun run => !run.spacing

/-- The combining class of a character. -/
def combining (character : Char) : Nat := ((find? character).map (·.combining)).getD 0

end Mark

end ArenaStandings
