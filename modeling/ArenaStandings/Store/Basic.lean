import ArenaStandings.Failure
import ArenaStandings.Log

/-!
# The storage and reading from it

A `Store` holds four collections of documents, each of which may have a fault. A `Read` is a
computation that reads from a store: it has a result or a failure, and with a result the `Trace` of
the queries it made and the lines it logged. The only primitive reads are `Read.find` and
`Read.findFirst`, so that what a read depends on can be read off its queries.
-/

namespace ArenaStandings

/-- The collections of the game. -/
inductive Shelf
  | rounds
  | eliminations
  | users
  | arenas
  deriving DecidableEq, Repr

def Shelf.name : Shelf → String
  | rounds => "rounds"
  | eliminations => "elimination_logs"
  | users => "users"
  | arenas => "arenas"

def Shelf.ofName? : String → Option Shelf
  | "rounds" => some rounds
  | "elimination_logs" => some eliminations
  | "users" => some users
  | "arenas" => some arenas
  | _ => none

/-- The documents of a collection, and its fault if it cannot be read. -/
structure Collection where
  documents : List Record
  fault : Option Fault
  deriving Inhabited

/-- The storage of the game. -/
structure Store where
  rounds : Collection
  eliminations : Collection
  users : Collection
  arenas : Collection
  deriving Inhabited

namespace Store

def get (store : Store) : Shelf → Collection
  | .rounds => store.rounds
  | .eliminations => store.eliminations
  | .users => store.users
  | .arenas => store.arenas

def update (store : Store) (shelf : Shelf) (change : Collection → Collection) : Store :=
  match shelf with
  | .rounds => { store with rounds := change store.rounds }
  | .eliminations => { store with eliminations := change store.eliminations }
  | .users => { store with users := change store.users }
  | .arenas => { store with arenas := change store.arenas }

/-- Add a document at the end of a collection. -/
def add (store : Store) (shelf : Shelf) (document : Record) : Store :=
  store.update shelf fun collection =>
    { collection with documents := collection.documents ++ [document] }

def replace (store : Store) (shelf : Shelf) (documents : List Record) : Store :=
  store.update shelf fun collection => { collection with documents := documents }

def setFault (store : Store) (shelf : Shelf) (fault : Option Fault) : Store :=
  store.update shelf fun collection => { collection with fault := fault }

end Store

/-- What is asked of a document. -/
inductive Condition
  /-- Nothing. -/
  | all
  /-- A field is this text. -/
  | equals (field text : String)
  /-- A field is one of these texts. -/
  | among (field : String) (texts : List String)
  deriving DecidableEq, Repr

def Condition.holds (condition : Condition) (document : Record) : Bool :=
  match condition with
  | all => true
  | equals field text => (document.get field).text? == some text
  | among field texts => (document.get field).text?.any (texts.contains ·)

/-- A question to a collection. -/
structure Query where
  shelf : Shelf
  condition : Condition
  deriving DecidableEq, Repr

/-- What a read did: its queries and its log lines, each in order. -/
structure Trace where
  queries : List Query
  lines : List LogLine
  deriving DecidableEq, Repr

namespace Trace

def empty : Trace := ⟨[], []⟩

instance : Append Trace where
  append first second := ⟨first.queries ++ second.queries, first.lines ++ second.lines⟩

end Trace

/-- A computation that reads from a store. -/
def Read (α : Type) : Type := Store → Except Failure (α × Trace)

namespace Read

variable {α β : Type}

protected def pure (value : α) : Read α := fun _ => .ok (value, .empty)

/-- One read after another; the first failure ends them. -/
protected def bind (first : Read α) (next : α → Read β) : Read β := fun store =>
  match first store with
  | .error failure => .error failure
  | .ok (value, trace) =>
    match next value store with
    | .error failure => .error failure
    | .ok (result, later) => .ok (result, trace ++ later)

instance : Monad Read where
  pure := Read.pure
  bind := Read.bind

def fail (failure : Failure) : Read α := fun _ => .error failure

def log (lines : List LogLine) : Read Unit := fun _ => .ok ((), ⟨[], lines⟩)

/-- The documents that meet a condition, in the order of the collection. -/
def find (query : Query) : Read (List Record) := fun store =>
  match (store.get query.shelf).fault with
  | some fault => .error (.raised fault)
  | none =>
    .ok ((store.get query.shelf).documents.filter query.condition.holds, ⟨[query], []⟩)

/-- The first document that meets a condition. -/
def findFirst (query : Query) : Read (Option Record) := fun store =>
  match (store.get query.shelf).fault with
  | some fault => .error (.raised fault)
  | none =>
    .ok ((store.get query.shelf).documents.find? query.condition.holds, ⟨[query], []⟩)

/-- Refuse to go on unless texts can be made of all these values. -/
def requireLegible (values : List Value) : Read Unit := fun _ =>
  if Value.areLegible values then .ok ((), .empty) else .error .tooManyDigits

def ofChecked (checked : Checked α) : Read α := fun _ => checked.orFail.map (·, .empty)

/-- A part of the game. A fault of the storage makes the part unreadable; any other is passed on. -/
def part (part : Part) (read : Read α) : Read α := fun store =>
  match read store with
  | .error (.raised fault) =>
    .error (if fault.isStorage then .unreadable part else .raised fault)
  | outcome => outcome

end Read

end ArenaStandings
