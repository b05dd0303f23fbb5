/-!
# Hexadecimal digits

`Hex.value?` reads a digit, small or capital; `Hex.padded` writes a number in small digits and
`Hex.capital` a digit in its capital form.
-/

namespace ArenaStandings

namespace Hex

/-- The value of a hexadecimal digit. -/
def value? (character : Char) : Option Nat :=
  let code := character.toNat
  if 48 ≤ code ∧ code ≤ 57 then some (code - 48)
  else if 65 ≤ code ∧ code ≤ 70 then some (code - 55)
  else if 97 ≤ code ∧ code ≤ 102 then some (code - 87)
  else none

/-- The digits of a number, filled up with zeros to a width. -/
def padded (width n : Nat) : List Char :=
  let digits := Nat.toDigits 16 n
  List.replicate (width - digits.length) '0' ++ digits

def capital (value : Nat) : Char :=
  if value < 10 then .ofNat (48 + value) else .ofNat (55 + value)

end Hex

end ArenaStandings
