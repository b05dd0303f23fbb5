import ArenaStandings.Value

/-!
# The order of stored values

The storage sorts values of all kinds. The kinds come one after the other: nothing, numbers, texts,
records, lists, object identifiers, truth values. Numbers compare exactly across integers and
doubles, with what is not a number before them all; records compare equal, and so do lists.
-/

namespace ArenaStandings

namespace Value

/-- The number that a value is, if it is one. -/
def number? : Value → Option Number
  | int n => some (.int n)
  | float x => some (.float x)
  | _ => none

/-- The place of a value's kind. -/
def kindRank : Value → Nat
  | null => 0
  | int _ => 1
  | float _ => 1
  | text _ => 2
  | record _ => 3
  | list _ => 4
  | objectId _ => 5
  | bool _ => 6

/-- Is this the number that is none? -/
def isNaN : Value → Bool
  | float x => x.isNaN
  | _ => false

/-- May the first value come before the second, both of one kind? -/
def mayPrecedeInKind : Value → Value → Bool
  | text first, text second => first ≤ second
  | objectId first, objectId second => first ≤ second
  | bool first, bool second => first ≤ second
  | first, second =>
    match first.number?, second.number? with
    | some m, some n => first.isNaN || !second.isNaN && m ≤ n
    | _, _ => true

/-- May the first value come before the second when values are sorted? -/
def mayPrecede (first second : Value) : Bool :=
  if first.kindRank = second.kindRank then mayPrecedeInKind first second
  else first.kindRank < second.kindRank

end Value

end ArenaStandings
