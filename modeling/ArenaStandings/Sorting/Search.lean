/-!
# Searching for a place

A place is looked for among `0, …, size`: up to it a test holds, from it on it does not. `bisect`
halves an interval. `gallop` starts at a hint, takes strides of growing length away from it, and
halves the last stride; it needs few tests if the place is close to the hint. If the test holds up
to one place and not beyond it, both find that place; which places they try is part of what they
promise if it does not.
-/

namespace ArenaStandings

namespace Sorting

/-- The place in an interval at which a test ceases to hold. -/
def bisect (holds : Nat → Bool) (low high : Nat) : Nat :=
  if low < high then
    let middle := low + (high - low) / 2
    if holds middle then bisect holds (middle + 1) high else bisect holds low middle
  else high
termination_by high - low
decreasing_by all_goals omega

/-- Strides of lengths one, three, seven, … as long as a test holds and a limit is not reached:
the last stride at which it held, and the one after that. -/
def stride (holds : Nat → Bool) (limit last next : Nat) : Nat × Nat :=
  if next < limit then
    if holds next then stride holds limit next (2 * next + 1) else (last, next)
  else (last, limit)
termination_by limit - next
decreasing_by omega

/-- The place at which a test ceases to hold, looked for from a hint in both directions. -/
def gallop (holds : Nat → Bool) (size hint : Nat) : Nat :=
  if holds hint then
    let (last, next) := stride (fun offset => holds (hint + offset)) (size - hint) 0 1
    bisect holds (hint + last + 1) (hint + next)
  else
    let (last, next) := stride (fun offset => !holds (hint - offset)) (hint + 1) 0 1
    bisect holds (hint + 1 - next) (hint - last)

end Sorting

end ArenaStandings
