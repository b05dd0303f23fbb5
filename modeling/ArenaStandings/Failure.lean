import ArenaStandings.Schema.Issue

/-!
# Failures

A `Failure` is the cause for which an operation has no result. `Failure.message` words it. A `Fault`
is a failure of the storage, or of something beneath it, and is passed on with its own message;
only the faults of the storage itself become an unreadable part of the game.
-/

namespace ArenaStandings

/-- The kinds of faults. The first four are faults of the storage. -/
inductive FaultKind
  | storage
  | reconnecting
  | noServer
  | operation
  | runtime
  | value
  deriving DecidableEq, Repr

/-- A failure from beneath, with its message. -/
structure Fault where
  kind : FaultKind
  message : String
  deriving DecidableEq, Repr

/-- Does a fault come from the storage itself? -/
def Fault.isStorage (fault : Fault) : Bool :=
  match fault.kind with
  | .storage | .reconnecting | .noServer | .operation => true
  | .runtime | .value => false

/-- The parts of the game that are read from the storage. -/
inductive Part
  | resolvedRounds
  | eliminations
  | users
  | arena
  | arenaRounds
  deriving DecidableEq, Repr

def Part.name : Part → String
  | resolvedRounds => "resolved rounds"
  | eliminations => "elimination logs"
  | users => "users"
  | arena => "arena"
  | arenaRounds => "arena rounds"

/-- Why an operation has no result. -/
inductive Failure
  /-- A value does not have the shape that is asked for. -/
  | invalid (issues : List Issue)
  /-- A part of the game could not be read. -/
  | unreadable (part : Part)
  /-- There is no arena with this identifier. -/
  | unknownArena (id : String)
  /-- An integer is beyond the doubles where a double is asked for. -/
  | integerTooLarge
  /-- An integer has too many digits to be written. -/
  | tooManyDigits
  /-- An object identifier cannot be written as JSON. -/
  | unwritableIdentifier
  /-- The storage is not connected. -/
  | notConnected
  /-- No severity has this name. -/
  | unknownSeverity (name : String)
  /-- A fault from beneath. -/
  | raised (fault : Fault)
  deriving DecidableEq, Repr

def Failure.message : Failure → String
  | invalid issues => toString issues.length ++ " validation errors"
  | unreadable part => "Could not read " ++ part.name
  | unknownArena id => "Arena with ID " ++ id ++ " not found"
  | integerTooLarge => "int too large to convert to float"
  | tooManyDigits =>
    "Exceeds the limit (4300 digits) for integer string conversion; " ++
      "use sys.set_int_max_str_digits() to increase the limit"
  | unwritableIdentifier => "Object of type ObjectId is not JSON serializable"
  | notConnected => "Database not connected. Call Database.connect() first."
  | unknownSeverity name => "Unknown level: " ++ Quoted.quote name
  | raised fault => fault.message

/-- The value of a check, or its issues as a failure. -/
def Checked.orFail {α : Type} : Checked α → Except Failure α
  | valid value => .ok value
  | invalid issues => .error (.invalid issues)

end ArenaStandings
