import ArenaStandings.Decimal.Layout

/-!
# Numbers of two kinds

A `Number` is an integer of any size or a double, and keeps its kind. Two integers add up exactly; a
sum with a double is a double, and an integer beyond the doubles has no sum with one. The order is
exact across the kinds: nothing is rounded to compare.
-/

namespace ArenaStandings

/-- An integer or a double. -/
inductive Number
  | int (n : Int)
  | float (x : Float)
  deriving DecidableEq

namespace Number

instance : Inhabited Number := ⟨.int 0⟩

instance (n : Nat) : OfNat Number n := ⟨.int n⟩

/-- The nearest double, unless there is none. -/
def toFloat? : Number → Option Float
  | int n => Double.ofInt? n
  | float x => some x

/-- The sum: exact for two integers, the rounded sum of doubles otherwise. -/
def add? : Number → Number → Option Number
  | int m, int n => some (int (m + n))
  | m, n => do return float ((← m.toFloat?) + (← n.toFloat?))

instance : IntCast Number := ⟨int⟩

/-- The exact order of an integer and a double; there is none with what is not a number. -/
def compareIntFloat (n : Int) (x : Float) : Option Ordering :=
  match Double.shape x with
  | .notANumber => none
  | .infinite negative => some (if negative then .gt else .lt)
  | .finite negative mantissa exponent => some (Double.compareInt n negative mantissa exponent)

def le : Number → Number → Bool
  | int m, int n => m ≤ n
  | float x, float y => x ≤ y
  | int m, float y => (compareIntFloat m y).any Ordering.isLE
  | float x, int n => (compareIntFloat n x).any Ordering.isGE

instance : LE Number := ⟨fun a b => a.le b⟩

instance (a b : Number) : Decidable (a ≤ b) := inferInstanceAs (Decidable (a.le b = true))

@[simp] theorem int_add?_int (m n : Int) : add? (int m) (int n) = some (int (m + n)) := rfl

@[simp] theorem int_le_int (m n : Int) : int m ≤ int n ↔ m ≤ n := by
  change decide (m ≤ n) = true ↔ m ≤ n
  exact decide_eq_true_iff

def text : Number → String
  | int n => toString n
  | float x => Double.text x

end Number

end ArenaStandings
