import ArenaStandings.Sorting.Merge
import ArenaStandings.Sorting.Run

/-!
# Sorting by runs

`adaptive` cuts a list into runs and merges neighbouring runs in an order close to the best: each
boundary between two runs has a power, the depth at which a perfectly balanced tree over the list
would separate their middles, and boundaries of high power are merged away first.

For a strict order this is the stable sort, like any other. It is of use where the order has
exceptions, for it says what becomes of elements that cannot be compared.
-/

namespace ArenaStandings

namespace Sorting

variable {α : Type}

/-- A run that waits to be merged, and the power of the boundary behind it. -/
structure Waiting (α : Type) where
  run : List α
  power : Nat

/-- The depth at which halving separates `first / (2 · size)` from `second / (2 · size)`. The
first argument bounds it. -/
def depth : Nat → Nat → Nat → Nat → Nat
  | 0, _, _, _ => 0
  | bound + 1, size, first, second =>
    if size ≤ first then depth bound size (2 * (first - size)) (2 * (second - size)) + 1
    else if size ≤ second then 1
    else depth bound size (2 * first) (2 * second) + 1

/-- The power of the boundary between two runs of a list: the first begins at a place and has a
size. -/
def power (total start first second : Nat) : Nat :=
  let middle := 2 * start + first
  depth (total + 1) total middle (middle + first + second)

/-- Merge a run with those that wait before it, as long as their power is above a bound. -/
def collapse (precedes : α → α → Bool) (bound : Nat) :
    List (Waiting α) → List α → Nat → List (Waiting α) × List α × Nat
  | [], run, patience => ([], run, patience)
  | last :: waiting, run, patience =>
    if bound < last.power then
      let (merged, remaining) := merge precedes last.run run patience
      collapse precedes bound waiting merged remaining
    else (last :: waiting, run, patience)

/-- Merge all runs, given from the last to the first; of three, the two on the left if the leftmost
is the smallest of the outer ones. -/
def mergeAll (precedes : α → α → Bool) : List (List α) → Nat → List α
  | [], _ => []
  | [run], _ => run
  | [last, before], patience => (merge precedes before last patience).1
  | last :: before :: third :: rest, patience =>
    if third.length < last.length then
      let (merged, remaining) := merge precedes third before patience
      mergeAll precedes (last :: merged :: rest) remaining
    else
      let (merged, remaining) := merge precedes before last patience
      mergeAll precedes (merged :: third :: rest) remaining
termination_by runs => runs.length

/-- Take runs in from left to right, the latest of which begins at a place, and merge them all. -/
def schedule (precedes : α → α → Bool) (total : Nat) :
    List (List α) → Nat → List α → List (Waiting α) → Nat → List α
  | [], _, latest, waiting, patience =>
    mergeAll precedes (latest :: waiting.map Waiting.run) patience
  | next :: rest, start, latest, waiting, patience =>
    let bound := power total start latest.length next.length
    let (fewer, run, remaining) := collapse precedes bound waiting latest patience
    schedule precedes total rest (start + latest.length) next (⟨run, bound⟩ :: fewer) remaining

def firstPatience : Nat := 7

/-- Sort a list by its runs. -/
def adaptive (precedes : α → α → Bool) (list : List α) : List α :=
  match runs precedes list with
  | [] => []
  | first :: rest => schedule precedes list.length rest 0 first [] firstPatience

end Sorting

end ArenaStandings
