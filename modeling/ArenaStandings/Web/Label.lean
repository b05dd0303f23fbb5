import ArenaStandings.Text.Case
import ArenaStandings.Text.Composition
import ArenaStandings.Text.Direction
import ArenaStandings.Text.Joining
import ArenaStandings.Text.Punycode
import ArenaStandings.Text.Quoted
import ArenaStandings.Text.Script
import ArenaStandings.Web.LabelTable

/-!
# Labels

A label is what stands between two points of a host name. `Label.check` says what keeps a text from
being one: it must be composed, its hyphens and marks must stand in their places, and every
character must be one that may stand anywhere or be in a context in which it may stand. A label with
a letter from right to left must have one direction. In an address a label beyond ASCII is written
as `xn--` and its form in letters and digits: `Label.encode` and `Label.decode`.
-/

namespace ArenaStandings

/-- Why a text is no label. Positions count from one. -/
inductive LabelFlaw
  | empty
  | uncomposed
  /-- There are two hyphens behind the second character. -/
  | innerHyphens
  | outerHyphen
  | leadingMark
  /-- The character may stand nowhere. -/
  | character (position : Nat)
  /-- The character may not stand where it does. -/
  | context (position : Nat)
  /-- The sign, which only changes how letters join, may not stand where it does. -/
  | joiner (position : Nat)
  /-- The first character is no letter with a direction. -/
  | undirected
  | leftInRight (position : Nat)
  | rightInLeft (position : Nat)
  | mixedNumbers
  | undirectedEnd
  /-- Nothing follows the mark of an encoded label. -/
  | noContent
  | finalHyphen
  | undecodable
  | long
  deriving DecidableEq, Repr

/-- A text that is no label, by the codes of its characters, and why it is none. -/
structure BadLabel where
  codes : List Nat
  flaw : LabelFlaw
  deriving DecidableEq, Repr

namespace BadLabel

/-- The code at a position, with four digits at least. -/
def codeText (bad : BadLabel) (position : Nat) : String :=
  .ofList ('U' :: '+' :: (Hex.padded 4 (bad.codes.getD (position - 1) 0)).map Char.toUpper)

def message (bad : BadLabel) : String :=
  match bad.flaw with
  | .empty => "Empty Label"
  | .uncomposed => "Label must be in Normalization Form C"
  | .innerHyphens => "Label has disallowed hyphens in 3rd and 4th position"
  | .outerHyphen => "Label must not start or end with a hyphen"
  | .leadingMark => "Label begins with an illegal combining character"
  | .character position =>
    "Codepoint " ++ bad.codeText position ++ " at position " ++ toString position ++ " of " ++
      Quoted.quoteCodes bad.codes ++ " not allowed"
  | .context position =>
    "Codepoint " ++ bad.codeText position ++ " not allowed at position " ++ toString position ++
      " in " ++ Quoted.quoteCodes bad.codes
  | .joiner position =>
    "Joiner " ++ bad.codeText position ++ " not allowed at position " ++ toString position ++
      " in " ++ Quoted.quoteCodes bad.codes
  | .undirected =>
    "First codepoint in label " ++ Quoted.quoteCodes bad.codes ++
      " must be directionality L, R or AL"
  | .leftInRight position =>
    "Invalid direction for codepoint at position " ++ toString position ++
      " in a right-to-left label"
  | .rightInLeft position =>
    "Invalid direction for codepoint at position " ++ toString position ++
      " in a left-to-right label"
  | .mixedNumbers => "Can not mix numeral types in a right-to-left label"
  | .undirectedEnd => "Label ends with illegal codepoint directionality"
  | .noContent => "Malformed A-label, no Punycode eligible content found"
  | .finalHyphen => "A-label must not end with a hyphen"
  | .undecodable => "Invalid A-label"
  | .long => "Label too long"

end BadLabel

namespace Label

/-! ## Characters and their contexts -/

/-- May the character stand anywhere in a label? -/
def isFree (character : Char) : Bool :=
  let code := character.toNat
  LabelTable.runs.any fun run =>
    run.first ≤ code && code ≤ run.last && (code - run.first) % run.stride = 0

/-- The class of the marks that join two consonants. -/
def virama : Nat := 9

/-- Does a letter stand at the start that joins to this side or both, behind transparent
characters? -/
def startsJoining (side : Joining) (text : List Char) : Bool :=
  match text.dropWhile (Joining.ofChar · = .transparent) with
  | [] => false
  | character :: _ => Joining.ofChar character = side || Joining.ofChar character = .both

/-- May a sign that changes how letters join stand between two texts, the first of which is read
backwards? A sign that keeps letters apart may also stand between two that would join. -/
def isJoinerContext (character : Char) (before after : List Char) : Bool :=
  before.head?.any (Mark.combining · = virama) ||
    character == '\u200c' && startsJoining .following before && startsJoining .preceding after

/-- The middle dot, which stands between two letters l. -/
def middleDot : Char := '\u00b7'

/-- The Greek sign of a numeral, which stands before a Greek letter. -/
def numeralSign : Char := '\u0375'

/-- The Hebrew signs of an abbreviation, which stand after a Hebrew letter. -/
def abbreviationSigns : List Char := ['\u05f3', '\u05f4']

/-- The middle dot of Japanese, which stands in a label with a Japanese letter. -/
def wideMiddleDot : Char := '\u30fb'

/-- Is the character one of the first row of Arabic digits? -/
def isArabicDigit (character : Char) : Bool :=
  0x660 ≤ character.toNat && character.toNat ≤ 0x669

/-- Is the character one of the second row of Arabic digits? -/
def isExtendedDigit (character : Char) : Bool :=
  0x6F0 ≤ character.toNat && character.toNat ≤ 0x6F9

/-- May the character stand between two texts in a label, the first of which is read backwards?
There is no answer for a character without a rule. The two rows of Arabic digits do not mix. -/
def contextRule? (label : List Char) (character : Char) (before after : List Char) : Option Bool :=
  if character = middleDot then some (before.head? = some 'l' && after.head? = some 'l')
  else if character = numeralSign then some (after.head?.any Script.isGreek)
  else if abbreviationSigns.contains character then some (before.head?.any Script.isHebrew)
  else if character = wideMiddleDot then some (label.any Script.isJapanese)
  else if isArabicDigit character then some (!label.any isExtendedDigit)
  else if isExtendedDigit character then some (!label.any isArabicDigit)
  else none

/-- What is wrong with a character between two texts in a label, the first of which is read
backwards. -/
def characterFlaw? (label : List Char) (character : Char) (before after : List Char) :
    Option LabelFlaw :=
  let position := before.length + 1
  if isFree character then none
  else if character = '\u200c' ∨ character = '\u200d' then
    if isJoinerContext character before after then none
    else some (.joiner position)
  else match contextRule? label character before after with
    | some true => none
    | some false => some (.context position)
    | none => some (.character position)

/-- What is wrong with the first bad character of a label after a text, which is read backwards. -/
def charactersFlaw? (label before : List Char) : List Char → Option LabelFlaw
  | [] => none
  | character :: after =>
    (characterFlaw? label character before after).or
      (charactersFlaw? label (character :: before) after)

/-! ## Directions -/

/-- Does the character make a label one from right to left, if it begins so? -/
def isRightward (character : Char) : Bool :=
  match Direction.ofChar character with
  | .rightToLeft | .arabicLetter | .arabicNumber => true
  | _ => false

/-- The direction with which a text ends, if marks are passed over. -/
def lastDirection? (text : List Char) : Option Direction :=
  ((text.map Direction.ofChar).reverse.dropWhile (· = .nonspacing)).head?

/-- What is wrong in a label from right to left, from a position on and after a kind of number. -/
def rightToLeftFlaw? : Nat → Option Direction → List Char → Option LabelFlaw
  | _, _, [] => none
  | position, number, character :: rest =>
    match Direction.ofChar character with
    | .leftToRight => some (.leftInRight position)
    | .arabicNumber =>
      if number = some .europeanNumber then some .mixedNumbers
      else rightToLeftFlaw? (position + 1) (some .arabicNumber) rest
    | .europeanNumber =>
      if number = some .arabicNumber then some .mixedNumbers
      else rightToLeftFlaw? (position + 1) (some .europeanNumber) rest
    | _ => rightToLeftFlaw? (position + 1) number rest

/-- What is wrong with the directions in a label. -/
def directionFlaw? (label : List Char) : Option LabelFlaw :=
  if !label.any isRightward then none
  else match label.head?.map Direction.ofChar with
    | some .leftToRight =>
      match label.findIdx? isRightward with
      | some place => some (.rightInLeft (place + 1))
      | none => none
    | some .rightToLeft | some .arabicLetter =>
      (rightToLeftFlaw? 1 none label).or <|
        match lastDirection? label with
        | some .rightToLeft | some .arabicLetter | some .arabicNumber | some .europeanNumber => none
        | _ => some .undirectedEnd
    | _ => some .undirected

/-! ## Labels -/

/-- What keeps a text from being a label. -/
def flaw? (label : List Char) : Option LabelFlaw :=
  if label = [] then some .empty
  else if !Composition.isComposed label then some .uncomposed
  else if (label.drop 2).take 2 = ['-', '-'] then some .innerHyphens
  else if label.head? = some '-' ∨ label.getLast? = some '-' then some .outerHyphen
  else if label.head?.any Mark.isMark then some .leadingMark
  else (charactersFlaw? label [] label).or (directionFlaw? label)

/-- The text with these codes. In place of a code that no character has stands the sign for such a
one, which may stand nowhere in a label. -/
def ofCodes (codes : List Nat) : List Char :=
  codes.map fun code => if code.isValidChar then .ofNat code else '\ufffd'

/-- The text with these codes, if it is a label. -/
def check (codes : List Nat) : Except BadLabel (List Char) :=
  match flaw? (ofCodes codes) with
  | some flaw => .error ⟨codes, flaw⟩
  | none => .ok (ofCodes codes)

/-! ## Labels in addresses -/

/-- The most characters that a label in an address may have. -/
def longest : Nat := 63

def encodedStart : List Char := "xn--".toList

/-- The label for which a text in an address stands. Capital letters count as small ones. -/
def decode (written : List Char) : Except BadLabel (List Char) :=
  let label := written.map Case.lowerLatin
  let codes := label.map Char.toNat
  if encodedStart.isPrefixOf label then
    let content := label.drop encodedStart.length
    if content = [] then .error ⟨codes, .noContent⟩
    else if content.getLast? = some '-' then .error ⟨codes, .finalHyphen⟩
    else match Punycode.decode? content with
      | some decoded => check decoded
      | none => .error ⟨codes, .undecodable⟩
  else check codes

/-- The text that stands for a label in an address. In ASCII it is the label, which may be encoded.
A text of more characters than a label may have has no shorter form. -/
def encode (label : List Char) : Except BadLabel (List Char) := do
  let codes := label.map Char.toNat
  if longest < label.length then throw ⟨codes, .long⟩
  let encoded ←
    if label.all (·.toNat < 0x80) then (decode label).map fun _ => label
    else (check codes).map fun checked => encodedStart ++ Punycode.encode checked
  if longest < encoded.length then throw ⟨codes, .long⟩
  return encoded

end Label

end ArenaStandings
