import ArenaStandings.Text.Hex
import ArenaStandings.Text.Printable

/-!
# Quoted text

Text inside a list or a record, and text inside a message, is written between quotes: single ones,
or double ones if it holds a single quote and no double one. A backslash, the enclosing quote and
every character that is not printed is written as an escape.
-/

namespace ArenaStandings

namespace Quoted

/-- The escape of a character by its code. -/
def numericEscape (code : Nat) : List Char :=
  if code ≤ 0xFF then '\\' :: 'x' :: Hex.padded 2 code
  else if code ≤ 0xFFFF then '\\' :: 'u' :: Hex.padded 4 code
  else '\\' :: 'U' :: Hex.padded 8 code

def escape (quote character : Char) : List Char :=
  if character = quote ∨ character = '\\' then ['\\', character]
  else if character = '\t' then ['\\', 't']
  else if character = '\n' then ['\\', 'n']
  else if character = '\r' then ['\\', 'r']
  else if Printable.isPrintable character then [character]
  else numericEscape character.toNat

/-- The quote for a text that holds a single quote or not, and a double one or not. -/
def mark (hasSingle hasDouble : Bool) : Char := if hasSingle && !hasDouble then '\x22' else '\x27'

def quote (text : String) : String :=
  let characters := text.toList
  let around := mark (characters.contains '\x27') (characters.contains '\x22')
  .ofList (around :: characters.flatMap (escape around) ++ [around])

/-- A text between quotes, given by the codes of its characters. A code that no character has is
written as an escape too. -/
def quoteCodes (codes : List Nat) : String :=
  let around := mark (codes.contains 0x27) (codes.contains 0x22)
  let written := codes.flatMap fun code =>
    if code.isValidChar then escape around (.ofNat code) else numericEscape code
  .ofList (around :: written ++ [around])

end Quoted

end ArenaStandings
