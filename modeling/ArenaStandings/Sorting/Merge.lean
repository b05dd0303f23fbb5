import ArenaStandings.Sorting.Search

/-!
# Merging two runs

Two runs are merged element by element. When one of them wins often enough in a row, the merge
gallops: it looks up how many elements of one run go before the next of the other, and takes them
together. How often is enough is the patience of the merges; it falls while galloping pays and grows
when it does not, and passes from one merge to the next.

The elements of the first run that stay in front of the second run, and those of the second run that
stay behind the first, take no part. Of the parts that remain, the smaller one is held; a merge that
holds the first run works from the front, one that holds the second from the back.
-/

namespace ArenaStandings

namespace Sorting

variable {α : Type}

/-- Two runs that are being merged, both in the direction of the work, and what is merged,
backwards. -/
structure Merging (α : Type) where
  held : List α
  other : List α
  merged : List α

/-- How a merge goes: does the head of the other run go before that of the held one, and does the
work begin at the back? -/
structure Direction (α : Type) where
  otherFirst : α → α → Bool
  fromBack : Bool

namespace Merging

/-- The result of a merge that needs no more looking: a run is used up, or one element is held,
which then goes last. -/
def result? (merging : Merging α) : Option (List α) :=
  match merging.held, merging.other with
  | [], other => some (merging.merged.reverse ++ other)
  | held, [] => some (merging.merged.reverse ++ held)
  | [last], other => some (merging.merged.reverse ++ other ++ [last])
  | _, _ => none

/-- Does the merge need no more looking? -/
def isSettled (merging : Merging α) : Bool := merging.result?.isSome

def takeHeld (merging : Merging α) (count : Nat) : Merging α :=
  ⟨merging.held.drop count, merging.other, (merging.held.take count).reverse ++ merging.merged⟩

def takeOther (merging : Merging α) (count : Nat) : Merging α :=
  ⟨merging.held, merging.other.drop count, (merging.other.take count).reverse ++ merging.merged⟩

/-- Take elements one by one, until the merge is settled or one run has won as often in a row as the
patience says. The first argument bounds how many are taken; the next two count the wins. -/
def oneByOne (direction : Direction α) (patience : Nat) :
    Nat → Nat → Nat → Merging α → Merging α
  | 0, _, _, merging => merging
  | count + 1, heldWins, otherWins, merging =>
    match merging.held, merging.other with
    | x :: _, y :: _ =>
      if direction.otherFirst x y then
        let next := merging.takeOther 1
        if next.isSettled || patience ≤ otherWins + 1 then next
        else oneByOne direction patience count 0 (otherWins + 1) next
      else
        let next := merging.takeHeld 1
        if next.isSettled || patience ≤ heldWins + 1 then next
        else oneByOne direction patience count (heldWins + 1) 0 next
    | _, _ => merging

/-- How many elements at the head of a run win, looked up by galloping. -/
def lead (direction : Direction α) (wins : α → Bool) (run : List α) : Nat :=
  if direction.fromBack then
    run.length -
      gallop (fun index => (run[run.length - 1 - index]?).any (!wins ·)) run.length
        (run.length - 1)
  else gallop (fun index => (run[index]?).any wins) run.length 0

/-- Take the elements of the held run that go before the next of the other, then that one; and say
how many were taken together. -/
def gallopHeld (direction : Direction α) (merging : Merging α) : Merging α × Nat :=
  match merging.other with
  | [] => (merging, 0)
  | y :: _ =>
    let count := lead direction (fun x => !direction.otherFirst x y) merging.held
    let next := merging.takeHeld count
    (if next.isSettled then next else next.takeOther 1, count)

/-- Take the elements of the other run that go before the next of the held, then that one; and say
how many were taken together. -/
def gallopOther (direction : Direction α) (merging : Merging α) : Merging α × Nat :=
  match merging.held with
  | [] => (merging, 0)
  | x :: _ =>
    let count := lead direction (fun y => direction.otherFirst x y) merging.other
    let next := merging.takeOther count
    (if next.isSettled then next else next.takeHeld 1, count)

/-- Gallop in both runs, the one in front of the list first, unless the merge is settled in between;
and say whether it was worth it. -/
def gallopBoth (direction : Direction α) (merging : Merging α) : Merging α × Bool :=
  let (first, second) := if direction.fromBack then (gallopOther, gallopHeld)
    else (gallopHeld, gallopOther)
  let (half, firstCount) := first direction merging
  if half.isSettled then (half, false)
  else
    let (whole, secondCount) := second direction half
    (whole, 7 ≤ firstCount || 7 ≤ secondCount)

/-- Gallop as long as it is worth it; and say what patience remains. -/
def gallopFor (direction : Direction α) : Nat → Nat → Merging α → Merging α × Nat
  | 0, patience, merging => (merging, patience)
  | count + 1, patience, merging =>
    let less := max 1 (patience - 1)
    let (next, worthwhile) := merging.gallopBoth direction
    if next.isSettled then (next, less)
    else if worthwhile then gallopFor direction count less next
    else (next, less + 1)

/-- Merge to the end, and say what patience remains. -/
def finishFor (direction : Direction α) : Nat → Nat → Merging α → List α × Nat
  | 0, patience, merging => (merging.merged.reverse, patience)
  | count + 1, patience, merging =>
    match merging.result? with
    | some result => (result, patience)
    | none =>
      let fuel := merging.held.length + merging.other.length
      let next := merging.oneByOne direction patience fuel 0 0
      match next.result? with
      | some result => (result, patience)
      | none =>
        let (galloped, left) := next.gallopFor direction fuel (patience + 1)
        finishFor direction count left galloped

/-- Merge from the start: the first element is one of the other run. -/
def finish (direction : Direction α) (held other : List α) (patience : Nat) : List α × Nat :=
  finishFor direction (held.length + other.length + 1) patience
    (takeOther ⟨held, other, []⟩ 1)

end Merging

/-- Merge two runs, and say what patience remains. -/
def merge (precedes : α → α → Bool) (first second : List α) (patience : Nat) :
    List α × Nat :=
  match second.head? with
  | none => (first, patience)
  | some head =>
    let front := gallop (fun index => (first[index]?).any fun other => !precedes head other)
      first.length 0
    let left := first.drop front
    match left.getLast? with
    | none => (first ++ second, patience)
    | some last =>
      let back := gallop (fun index => (second[index]?).any fun other => precedes other last)
        second.length (second.length - 1)
      let right := second.take back
      let (merged, remaining) :=
        if back = 0 then (left, patience)
        else if left.length ≤ right.length then
          Merging.finish ⟨fun x y => precedes y x, false⟩ left right patience
        else
          let (merged, remaining) :=
            Merging.finish ⟨fun x y => precedes x y, true⟩ right.reverse left.reverse patience
          (merged.reverse, remaining)
      (first.take front ++ merged ++ second.drop back, remaining)

end Sorting

end ArenaStandings
