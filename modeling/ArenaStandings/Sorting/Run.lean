import ArenaStandings.Sorting.Search

/-!
# Runs

A run is a stretch of a list that is in order as it stands. `leadingRun` takes the longest run off a
list; a stretch in which every element must come before the one in front of it is turned round. Runs
that are too short are filled up with the elements after them, each put in its place by halving.
-/

namespace ArenaStandings

namespace Sorting

variable {α : Type}

/-- How many elements go on with a run: none of them must come before the one in front of it. -/
def ascent (precedes : α → α → Bool) : α → List α → Nat
  | _, [] => 0
  | last, next :: rest => if precedes next last then 0 else ascent precedes next rest + 1

/-- How many elements go on with a falling stretch: each must come before the one in front of it. -/
def descent (precedes : α → α → Bool) : α → List α → Nat
  | _, [] => 0
  | last, next :: rest => if precedes next last then descent precedes next rest + 1 else 0

/-- The run at the start of a list, and what follows it. -/
def leadingRun (precedes : α → α → Bool) : List α → List α × List α
  | first :: second :: rest =>
    if precedes second first then
      let size := descent precedes second rest
      ((first :: second :: rest.take size).reverse, rest.drop size)
    else
      let size := ascent precedes second rest
      (first :: second :: rest.take size, rest.drop size)
  | list => (list, [])

/-- Put an element into a run, behind those that it must not come before. -/
def insert (precedes : α → α → Bool) (run : List α) (item : α) : List α :=
  let place :=
    bisect (fun index => (run[index]?).any fun other => !precedes item other) 0 run.length
  run.take place ++ item :: run.drop place

/-- The run at the start of a list, filled up to a least size, and what follows it. -/
def nextRun (precedes : α → α → Bool) (least : Nat) (list : List α) : List α × List α :=
  let (run, rest) := leadingRun precedes list
  let missing := least - run.length
  ((rest.take missing).foldl (insert precedes) run, rest.drop missing)

/-- Cut a list into runs of a least size, at most as many as the first argument says. -/
def runsFor (precedes : α → α → Bool) (least : Nat) : Nat → List α → List (List α)
  | 0, _ => []
  | _, [] => []
  | count + 1, first :: rest =>
    let (run, others) := nextRun precedes least (first :: rest)
    run :: runsFor precedes least count others

/-- Halve a size until it is below sixty-four, and add one if anything was lost on the way. -/
def halved (size lost : Nat) : Nat :=
  if size < 64 then size + lost else halved (size / 2) (max lost (size % 2))
termination_by size
decreasing_by omega

/-- The runs of a list. Their least size is such that nearly a power of two of them make up the
list. -/
def runs (precedes : α → α → Bool) (list : List α) : List (List α) :=
  runsFor precedes (halved list.length 0) list.length list

end Sorting

end ArenaStandings
