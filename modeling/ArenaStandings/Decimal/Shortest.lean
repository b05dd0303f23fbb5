import ArenaStandings.Decimal.Double

/-!
# The shortest decimal that reads back

A double is the nearest one to every real in an interval around it. `Decimal.shortest` looks for the
coarsest decimal grid with a point in that interval: one digit, two digits, and so on up to
seventeen, each time testing the two grid points next to the value, in whole numbers. Of two hits
the nearer one is taken, and of two equally near ones the even one.
-/

namespace ArenaStandings

/-- The decimal `digits · 10 ^ exponent`. -/
structure Decimal where
  digits : Nat
  exponent : Int
  deriving DecidableEq, Repr

namespace Decimal

/-- A number between the two ends of the interval of reals that round to it. All three are given as
numerators over one denominator. -/
structure Interval where
  low : Nat
  value : Nat
  high : Nat
  denominator : Nat
  /-- Do the ends belong to the interval? -/
  closed : Bool

/-- The reals that round to `mantissa · 2 ^ exponent`: half a unit to each side, a quarter below a
power of two, where the neighbour is closer. A tie goes to the even mantissa. -/
def Interval.ofDouble (mantissa : Nat) (exponent : Int) : Interval :=
  let below := if mantissa = Nat.pow 2 52 ∧ exponent > -1074 then 1 else 2
  let scale := Nat.pow 2 (exponent - 2).toNat
  { low := (4 * mantissa - below) * scale
    value := 4 * mantissa * scale
    high := (4 * mantissa + 2) * scale
    denominator := Nat.pow 2 (2 - exponent).toNat
    closed := mantissa % 2 == 0 }

/-- Is `digits · 10 ^ exponent` in the interval? -/
def Interval.contains (interval : Interval) (digits : Nat) (exponent : Int) : Bool :=
  let point := digits * Nat.pow 10 exponent.toNat * interval.denominator
  let low := interval.low * Nat.pow 10 (-exponent).toNat
  let high := interval.high * Nat.pow 10 (-exponent).toNat
  if interval.closed then low ≤ point && point ≤ high else low < point && point < high

/-- Is the value at least `10 ^ exponent`? -/
def Interval.reaches (interval : Interval) (exponent : Int) : Bool :=
  Nat.pow 10 exponent.toNat * interval.denominator ≤ interval.value * Nat.pow 10 (-exponent).toNat

/-- The exponent of the leading digit of the value, from the place of the leading bit: the estimate
is off by one at most. -/
def Interval.leading (interval : Interval) (mantissa : Nat) (exponent : Int) : Int :=
  let estimate := ((mantissa.log2 : Int) + exponent) * 1233 / 4096
  if interval.reaches (estimate + 1) then estimate + 1
  else if interval.reaches estimate then estimate
  else estimate - 1

/-- The point of the grid `10 ^ exponent` that stands for the value: of its two neighbours the one
in the interval, of two the nearer, of two equally near the even one. -/
def Interval.onGrid? (interval : Interval) (exponent : Int) : Option Decimal :=
  let numerator := interval.value * Nat.pow 10 (-exponent).toNat
  let denominator := interval.denominator * Nat.pow 10 exponent.toNat
  let lower := numerator / denominator
  let remainder := numerator % denominator
  let upwards := 2 * remainder > denominator || 2 * remainder == denominator && lower % 2 == 1
  match interval.contains lower exponent, interval.contains (lower + 1) exponent with
  | true, true => some ⟨if upwards then lower + 1 else lower, exponent⟩
  | true, false => some ⟨lower, exponent⟩
  | false, true => some ⟨lower + 1, exponent⟩
  | false, false => none

/-- Move factors of ten from the digits into the exponent, at most as many as the first argument
says. -/
def stripZeros : Nat → Decimal → Decimal
  | 0, decimal => decimal
  | count + 1, decimal =>
    if decimal.digits ≠ 0 ∧ decimal.digits % 10 = 0 then
      stripZeros count ⟨decimal.digits / 10, decimal.exponent + 1⟩
    else decimal

/-- The decimal with the fewest digits that reads back as `mantissa · 2 ^ exponent`. -/
def shortest (mantissa : Nat) (exponent : Int) : Decimal :=
  let interval := Interval.ofDouble mantissa exponent
  let leading := interval.leading mantissa exponent
  match (List.range 17).findSome? fun (count : Nat) => interval.onGrid? (leading - count) with
  | some decimal => stripZeros 20 decimal
  | none => ⟨0, 0⟩

end Decimal

end ArenaStandings
