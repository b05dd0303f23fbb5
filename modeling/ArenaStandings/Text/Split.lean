/-!
# Cutting texts

`Split.all` cuts a text at every occurrence of a character, `Split.first` at the first one. The
pieces do not hold the character, and `Split.all` always gives at least one piece.
-/

namespace ArenaStandings

namespace Split

/-- Cut a text at every occurrence of a character. -/
def all (mark : Char) : List Char → List (List Char)
  | [] => [[]]
  | character :: rest =>
    match all mark rest with
    | [] => [[character]]
    | first :: others =>
      if character = mark then [] :: first :: others else (character :: first) :: others

/-- Cut a text at the first occurrence of a character; without one the second piece is empty. -/
def first (mark : Char) (text : List Char) : List Char × List Char :=
  (text.takeWhile (· ≠ mark), (text.dropWhile (· ≠ mark)).drop 1)

end Split

end ArenaStandings
