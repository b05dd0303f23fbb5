import ArenaStandings.Text.CaseTable

/-!
# Letter case

`Case.lower` and `Case.upper` map a whole text. A capital letter may have a small form of two
characters, a small letter a capital form of three, and the capital sigma becomes a final sigma
where a word ends: after a letter with case and not before one.
-/

namespace ArenaStandings

namespace Case

open CaseTable

/-- The code point to which the first fitting run moves this one, or the code point itself. -/
def moved (runs : List Run) (code : Nat) : Nat := (runs.findSome? (·.move? code)).getD code

/-- Is the first character that is not passed over one with case? -/
def startsCased (text : List Char) : Bool :=
  match text.dropWhile fun character => inRanges ignorableRanges character.toNat with
  | [] => false
  | character :: _ => inRanges casedRanges character.toNat

/-- The small form of a character between the text before it, read backwards, and the text after
it. -/
def lowerOne (before : List Char) (character : Char) (after : List Char) : List Char :=
  if character = 'Σ' then [if startsCased before && !startsCased after then 'ς' else 'σ']
  else if character = 'İ' then ['i', '\u0307']
  else [.ofNat (moved lowerRuns character.toNat)]

/-- Write a text in small letters, after the text before it, read backwards. -/
def lowerFrom (before : List Char) : List Char → List Char
  | [] => []
  | character :: rest => lowerOne before character rest ++ lowerFrom (character :: before) rest

def lower (text : String) : String := .ofList (lowerFrom [] text.toList)

/-- The capital form of a character. -/
def upperOne (character : Char) : List Char :=
  match upperExpansions.lookup character.toNat with
  | some codes => codes.map .ofNat
  | none => [.ofNat (moved upperRuns character.toNat)]

def upper (text : String) : String := .ofList (text.toList.flatMap upperOne)

/-- The small form of a letter from A to Z; every other character stays. -/
def lowerLatin (character : Char) : Char :=
  if 'A' ≤ character ∧ character ≤ 'Z' then .ofNat (character.toNat + 32) else character

end Case

end ArenaStandings
