import ArenaStandings.Decimal.Shortest

/-!
# The text of a double

A double is written with the fewest digits that read back. Numbers from a ten-thousandth up to ten
quadrillion are written positionally, always with a point; the others with one digit before the
point and an exponent of at least two digits.
-/

namespace ArenaStandings

namespace Decimal

def digitsOf (n : Nat) : List Char := Nat.toDigits 10 n

/-- An exponent with its sign and at least two digits. -/
def exponentText (exponent : Int) : List Char :=
  let digits := digitsOf exponent.natAbs
  (if exponent < 0 then '-' else '+') :: (List.replicate (2 - digits.length) '0' ++ digits)

/-- A decimal whose leading digit has an exponent from `-4` to `15` is written positionally. -/
def positional (decimal : Decimal) : List Char :=
  let digits := digitsOf decimal.digits
  match decimal.exponent with
  | .ofNat up => digits ++ List.replicate up '0' ++ ['.', '0']
  | .negSucc down =>
    let places := down + 1
    if places < digits.length then
      digits.take (digits.length - places) ++ '.' :: digits.drop (digits.length - places)
    else '0' :: '.' :: (List.replicate (places - digits.length) '0' ++ digits)

/-- One digit, the others after a point, and the exponent of the first. -/
def scientific (decimal : Decimal) : List Char :=
  match digitsOf decimal.digits with
  | [] => []
  | first :: rest =>
    let mark := if rest.isEmpty then [first] else first :: '.' :: rest
    mark ++ 'e' :: exponentText (decimal.exponent + rest.length)

/-- The text of a decimal that is not zero. -/
def layout (decimal : Decimal) : List Char :=
  let leading := decimal.exponent + (digitsOf decimal.digits).length - 1
  if -4 ≤ leading ∧ leading < 16 then positional decimal else scientific decimal

end Decimal

def Double.text (x : Float) : String :=
  match shape x with
  | .notANumber => "nan"
  | .infinite negative => if negative then "-inf" else "inf"
  | .finite negative mantissa exponent =>
    let magnitude :=
      if mantissa = 0 then ['0', '.', '0'] else (Decimal.shortest mantissa exponent).layout
    .ofList (if negative then '-' :: magnitude else magnitude)

end ArenaStandings
