/-!
# Text in letters and digits

A text with characters beyond ASCII can be written in ASCII: first its ASCII characters in order and
a hyphen, then one number for each other character, which says how far on in a list of all
characters and places the next one is to be put in. Each number is written with the least digit
first, in a base that changes with the digit's place and a bias; the bias follows the size of the
numbers so far. `Punycode.encode` writes this form and `Punycode.decode?` reads it.
-/

namespace ArenaStandings

namespace Punycode

/-! ## Numbers -/

def base : Nat := 36

/-- The digit from which a number goes on, at a place that counts from zero. -/
def threshold (bias place : Nat) : Nat := min 26 (max 1 (base * (place + 1) - bias))

/-- Divide a number until it is small, and say what is left and how often that was. -/
def shrink (n : Nat) : Nat × Nat :=
  if _large : 455 < n then
    let (rest, times) := shrink (n / 35)
    (rest, times + 1)
  else (n, 0)
termination_by n
decreasing_by exact Nat.div_lt_self (by omega) (by omega)

/-- The bias after a number, which may be the first, when there are so many characters. -/
def adapt (number count : Nat) (isFirst : Bool) : Nat :=
  let damped := if isFirst then number / 700 else number / 2
  let (rest, times) := shrink (damped + damped / count)
  base * times + base * rest / (rest + 38)

/-! ## Writing -/

/-- The letter or figure of a digit. -/
def digit (value : Nat) : Char := .ofNat (if value < 26 then 97 + value else 22 + value)

/-- The digits of a number from a place on. -/
def digits (bias place n : Nat) : List Char :=
  let least := threshold bias place
  if _small : n < least then [digit n]
  else
    digit (least + (n - least) % (base - least)) ::
      digits bias (place + 1) ((n - least) / (base - least))
termination_by n
decreasing_by
  have positive : 1 ≤ threshold bias place := by unfold threshold; omega
  have quotient := Nat.div_le_self (n - threshold bias place) (base - threshold bias place)
  omega

/-- Where the next character is put into a text: its code, and the place in what is there so far. -/
structure Insertion where
  code : Nat
  place : Nat

/-- The places at which the characters with a code are put in, if those with smaller codes are
there. The text is read from a place on. -/
def places (code place : Nat) : List Char → List Nat
  | [] => []
  | character :: rest =>
    if character.toNat = code then place :: places code (place + 1) rest
    else places code (if character.toNat < code then place + 1 else place) rest

/-- The insertions that make a text of its ASCII characters, in the order of their codes. -/
def insertions (text : List Char) : List Insertion :=
  let codes := ((text.filter (0x80 ≤ ·.toNat)).map Char.toNat).eraseDups.mergeSort
  codes.flatMap fun code => (places code 0 text).map fun place => ⟨code, place⟩

/-- Write insertions into a text of so many characters. A number says how far it is to the next
insertion from the earliest one that may follow the last, if all places are counted for one code
after another. -/
def write (count bias : Nat) (isFirst : Bool) (earliest : Insertion) : List Insertion → List Char
  | [] => []
  | next :: rest =>
    let number := (next.code - earliest.code) * (count + 1) + next.place - earliest.place
    digits bias 0 number ++
      write (count + 1) (adapt number (count + 1) isFirst) false
        ⟨next.code, next.place + 1⟩ rest

def encode (text : List Char) : List Char :=
  let plain := text.filter (·.toNat < 0x80)
  plain ++ (if plain = [] then [] else ['-']) ++
    write plain.length 72 true ⟨0x80, 0⟩ (insertions text)

/-! ## Reading -/

/-- The value of a digit, small or capital. -/
def value? (character : Char) : Option Nat :=
  let code := character.toNat
  if 97 ≤ code ∧ code ≤ 122 then some (code - 97)
  else if 65 ≤ code ∧ code ≤ 90 then some (code - 65)
  else if 48 ≤ code ∧ code ≤ 57 then some (code - 22)
  else none

/-- Where reading is: the codes so far and the earliest insertion that may follow, and of the number
that is being read its part so far, the weight of the next digit and its place. -/
structure Reading where
  codes : List Nat
  earliest : Insertion
  bias : Nat
  isFirst : Bool
  number : Nat
  weight : Nat
  digitPlace : Nat

/-- The greatest code of a character. -/
def greatestCode : Nat := 0x10FFFF

/-- Put in the code for which a number stands, unless it is too great. -/
def Reading.insert? (state : Reading) (number : Nat) : Option Reading :=
  let reached := state.earliest.place + number
  let count := state.codes.length + 1
  let code := state.earliest.code + reached / count
  if code ≤ greatestCode then
    some {
      codes := state.codes.insertIdx (reached % count) code
      earliest := ⟨code, reached % count + 1⟩
      bias := adapt number count state.isFirst
      isFirst := false
      number := 0
      weight := 1
      digitPlace := 0 }
  else none

/-- Read a digit. -/
def Reading.step? (state : Reading) (character : Char) : Option Reading :=
  (value? character).bind fun value =>
    let least := threshold state.bias state.digitPlace
    let number := state.number + value * state.weight
    if value < least then state.insert? number
    else some { state with
      number := number
      weight := state.weight * (base - least)
      digitPlace := state.digitPlace + 1 }

/-- The codes of the text that is written so. Nothing may stop within a number. There may be codes
among them that no character has. -/
def decode? (written : List Char) : Option (List Nat) :=
  let tail := (written.reverse.takeWhile (· ≠ '-')).reverse
  let plain := written.take (written.length - tail.length - 1)
  (tail.foldlM Reading.step?
      ⟨plain.map Char.toNat, ⟨0x80, 0⟩, 72, true, 0, 1, 0⟩).bind fun state =>
    if state.digitPlace = 0 then some state.codes else none

end Punycode

end ArenaStandings
