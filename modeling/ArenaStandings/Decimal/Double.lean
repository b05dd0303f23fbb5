/-!
# The shape of a double

A double is not a number, an infinity, or `± mantissa · 2 ^ exponent`. `Double.shape` reads the
three cases off the bits, and the exact questions of the library (whole part, conversion of an
integer, comparison with an integer) are answered on the shape in whole numbers. `Double.ofDecimal`
goes the other way, from a decimal to the nearest double.
-/

namespace ArenaStandings

namespace Double

/-- What a double stands for. -/
inductive Shape
  /-- No number at all. -/
  | notANumber
  /-- An infinity with its sign. -/
  | infinite (negative : Bool)
  /-- The number `± mantissa · 2 ^ exponent`. -/
  | finite (negative : Bool) (mantissa : Nat) (exponent : Int)
  deriving DecidableEq, Repr

/-- One sign bit, eleven exponent bits, fifty-two fraction bits. -/
def shapeOfBits (bits : Nat) : Shape :=
  let negative := bits / Nat.pow 2 63 == 1
  let biased : Nat := bits / Nat.pow 2 52 % Nat.pow 2 11
  let fraction : Nat := bits % Nat.pow 2 52
  if biased = 2047 then
    if fraction = 0 then .infinite negative else .notANumber
  else if biased = 0 then .finite negative fraction (-1074)
  else .finite negative (Nat.pow 2 52 + fraction) ((biased : Int) - 1075)

def shape (x : Float) : Shape := shapeOfBits x.toBits.toNat

/-- The whole part of `mantissa · 2 ^ exponent`. -/
def wholePart (mantissa : Nat) (exponent : Int) : Nat :=
  match exponent with
  | .ofNat up => mantissa * Nat.pow 2 up
  | .negSucc down => mantissa / Nat.pow 2 (down + 1)

/-- Is `mantissa · 2 ^ exponent` a whole number? -/
def isWhole (mantissa : Nat) (exponent : Int) : Bool :=
  match exponent with
  | .ofNat _ => true
  | .negSucc down => mantissa % Nat.pow 2 (down + 1) == 0

/-- The first whole number that is too large for a double: halfway from the largest double to
`2 ^ 1024`, where rounding goes up. -/
def overflowBound : Nat := Nat.pow 2 1024 - Nat.pow 2 970

/-- Does an integer round to a finite double? -/
def fits (n : Int) : Bool := n.natAbs < overflowBound

theorem fits_iff {n : Int} : fits n = true ↔ n.natAbs < overflowBound := by
  rw [fits, decide_eq_true_iff]

/-- The double nearest to an integer, unless the integer is too large for any. -/
def ofInt? (n : Int) : Option Float := if fits n then some (.ofInt n) else none

/-- The order of an integer and `± mantissa · 2 ^ exponent`. -/
def compareInt (n : Int) (negative : Bool) (mantissa : Nat) (exponent : Int) : Ordering :=
  let signed : Int := if negative then -(mantissa : Int) else mantissa
  match exponent with
  | .ofNat up => compare n (signed * Nat.pow 2 up)
  | .negSucc down => compare (n * Nat.pow 2 (down + 1)) signed

/-- The double nearest to `± digits · 10 ^ exponent`, an infinity when that lies beyond them all.
Decimals whose leading digit is far outside the range of the doubles are settled by its place. -/
def ofDecimal (negative : Bool) (digits : Nat) (exponent : Int) : Float :=
  let leading := exponent + (Nat.toDigits 10 digits).length
  let magnitude : Float :=
    if digits = 0 ∨ leading < -400 then 0
    else if leading > 400 then 1.0 / 0.0
    else match exponent with
      | .ofNat up => .ofScientific digits false up
      | .negSucc down => .ofScientific digits true (down + 1)
  if negative then -magnitude else magnitude

end Double

end ArenaStandings
