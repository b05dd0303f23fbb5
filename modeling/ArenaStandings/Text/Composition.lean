import ArenaStandings.Text.CaseTable
import ArenaStandings.Text.CompositionTable
import ArenaStandings.Text.Mark

/-!
# Composed text

A letter with marks may be written as one character or as several. A text is composed if it uses one
character wherever there is one and has the marks of a letter in the order of their classes.
`Composition.compose` writes a text so, by taking it apart, ordering the marks and putting it
together again; `Composition.isComposed` asks whether that changes it.
-/

namespace ArenaStandings

namespace Composition

/-! ## Syllables of Hangul -/

/-- The numbers of leading consonants, vowels and trailing consonants; no consonant counts as one of
the last. -/
def leadingCount : Nat := 19
def vowelCount : Nat := 21
def trailingCount : Nat := 28

def syllableCount : Nat := leadingCount * vowelCount * trailingCount

/-- The place of a character behind a first one, if there are so many. -/
def place? (first count : Nat) (character : Char) : Option Nat :=
  if first ≤ character.toNat ∧ character.toNat < first + count then
    some (character.toNat - first)
  else none

/-- The two parts of a syllable: its last letter, and what stands before it. -/
def syllableParts? (character : Char) : Option (Char × Char) :=
  (place? 0xAC00 syllableCount character).map fun place =>
    if place % trailingCount = 0 then
      (.ofNat (0x1100 + place / trailingCount / vowelCount),
        .ofNat (0x1161 + place / trailingCount % vowelCount))
    else
      (.ofNat (0xAC00 + place / trailingCount * trailingCount),
        .ofNat (0x11A7 + place % trailingCount))

/-- The syllable of a leading consonant and a vowel, or of a syllable and a trailing consonant. -/
def syllable? (first second : Char) : Option Char :=
  match place? 0x1100 leadingCount first, place? 0x1161 vowelCount second with
  | some leading, some vowel =>
    some (.ofNat (0xAC00 + (leading * vowelCount + vowel) * trailingCount))
  | _, _ =>
    match place? 0xAC00 syllableCount first, place? 0x11A8 (trailingCount - 1) second with
    | some place, some trailing =>
      if place % trailingCount = 0 then some (.ofNat (first.toNat + trailing + 1)) else none
    | _, _ => none

/-! ## Pairs -/

/-- What two characters compose. -/
def pair? (first second : Char) : Option Char :=
  match (CompositionTable.pairs.lookup second.toNat).bind (·.lookup first.toNat) with
  | some code => some (.ofNat code)
  | none => syllable? first second

/-- The two characters that compose a character. -/
def parts? (character : Char) : Option (Char × Char) :=
  match CompositionTable.pairs.findSome? fun entry =>
      (entry.2.find? fun pair => pair.2 = character.toNat).map fun pair =>
        (Char.ofNat pair.1, Char.ofNat entry.1) with
  | some parts => some parts
  | none => syllableParts? character

/-! ## Whole texts -/

/-- The most characters of which one is composed. -/
def depth : Nat := 4

/-- Take a character apart, as often as it goes up to a limit. -/
def partsUpTo : Nat → Char → List Char
  | 0, character => [character]
  | limit + 1, character =>
    match parts? character with
    | some (first, second) => partsUpTo limit first ++ [second]
    | none => [character]

/-- Order the marks at the start of a text among those already found. -/
def orderFrom (marks : List Char) : List Char → List Char
  | [] => marks
  | character :: rest =>
    if Mark.combining character = 0 then marks ++ character :: orderFrom [] rest
    else
      let rank := Mark.combining character
      orderFrom (marks.takeWhile (Mark.combining · ≤ rank) ++
        character :: marks.dropWhile (Mark.combining · ≤ rank)) rest

/-- Put a text together behind a character of class zero and marks that do not go with it, which are
kept backwards. A mark of the class of the last of them cannot get past it. -/
def composeFrom (first : Char) (marks : List Char) : List Char → List Char
  | [] => first :: marks.reverse
  | character :: rest =>
    let free := marks.head?.all fun last => Mark.combining last < Mark.combining character
    match if free then pair? first character else none with
    | some whole => composeFrom whole marks rest
    | none =>
      if Mark.combining character = 0 then
        first :: marks.reverse ++ composeFrom character [] rest
      else composeFrom first (character :: marks) rest

/-- A text in its composed form, if it holds no unstable character. -/
def compose (text : List Char) : List Char :=
  let ordered := orderFrom [] (text.flatMap (partsUpTo depth))
  let isLeading (character : Char) : Bool := Mark.combining character ≠ 0
  ordered.takeWhile isLeading ++
    match ordered.dropWhile isLeading with
    | [] => []
    | first :: rest => composeFrom first [] rest

/-- Is the text in its composed form? Without marks and syllables it always is. -/
def isComposed (text : List Char) : Bool :=
  text.all (·.toNat < 0x300) ||
    !text.any (CaseTable.inRanges CompositionTable.unstable ·.toNat) && compose text = text

end Composition

end ArenaStandings
