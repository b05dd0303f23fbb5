/-!
# Blank characters

Two sets of blanks are in use. `Blank.isWhiteSpace` is the set of the Unicode property White_Space;
numbers are trimmed by it. `Blank.isBlank` also has the four information separators; lists of
origins are trimmed by it.
-/

namespace ArenaStandings

namespace Blank

def isWhiteSpace (character : Char) : Bool :=
  let code := character.toNat
  0x09 ≤ code && code ≤ 0x0D || code == 0x20 || code == 0x85 || code == 0xA0 ||
    code == 0x1680 || 0x2000 ≤ code && code ≤ 0x200A || code == 0x2028 || code == 0x2029 ||
    code == 0x202F || code == 0x205F || code == 0x3000

/-- Is the character white space or an information separator? -/
def isBlank (character : Char) : Bool :=
  isWhiteSpace character || 0x1C ≤ character.toNat && character.toNat ≤ 0x1F

/-- Drop the characters of a set from both ends. -/
def trim (blank : Char → Bool) (text : List Char) : List Char :=
  ((text.dropWhile blank).reverse.dropWhile blank).reverse

end Blank

end ArenaStandings
