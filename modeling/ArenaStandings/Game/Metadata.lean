import ArenaStandings.Schema.Reader

/-!
# The metadata of a round

Whoever resolves a round leaves a bag of values on it. `Metadata.ofValue` makes of any bag the
choices, the payouts and the yield that it holds: an entry counts if it is a record with a text as
its user, an amount counts if it is a number that is finite as a double, and everything else is
passed over.
-/

namespace ArenaStandings

/-- What a player chose in a round, and the stake. -/
structure Choice where
  userId : String
  choice : Option String
  stake : Float

structure Payout where
  userId : String
  amount : Float

/-- What the bag of a round holds. -/
structure Metadata where
  choices : List Choice
  payouts : List Payout
  oracleYield : Float

/-- The amount that a value stands for: a number that is finite as a double, and zero otherwise. -/
def Value.amount (value : Value) : Float :=
  let double? := match value with
    | int n => Double.ofInt? n
    | float x => some x
    | _ => none
  (double?.filter Float.isFinite).getD 0

namespace Choice

/-- The choice that an entry holds, if it is a record with a text as its user. -/
def ofEntry? (entry : Value) : Option Choice :=
  entry.record?.bind fun fields =>
    (fields.get "userId").text?.map fun userId =>
      ⟨userId, (fields.get "choice").text?, (fields.get "stake").amount⟩

def read (fields : Record) : Checked Choice :=
  Choice.mk <$> Schema.field fields ["user_id"] Reader.text
    <*> Schema.optional fields ["choice"] (Reader.orNull Reader.text) none
    <*> Schema.optional fields ["stake"] Reader.double 0

def toValue (choice : Choice) : Value :=
  .record [
    ("user_id", .text choice.userId),
    ("choice", choice.choice.elim .null .text),
    ("stake", .float choice.stake)]

end Choice

namespace Payout

/-- The payout that an entry holds, if it is a record with a text as its user. -/
def ofEntry? (entry : Value) : Option Payout :=
  entry.record?.bind fun fields =>
    (fields.get "userId").text?.map fun userId => ⟨userId, (fields.get "amount").amount⟩

def read (fields : Record) : Checked Payout :=
  Payout.mk <$> Schema.field fields ["user_id"] Reader.text
    <*> Schema.optional fields ["amount"] Reader.double 0

def toValue (payout : Payout) : Value :=
  .record [("user_id", .text payout.userId), ("amount", .float payout.amount)]

end Payout

namespace Metadata

def empty : Metadata := ⟨[], [], 0⟩

/-- The entries of the payouts of a bag: they lie in its resolution, if that is a record. -/
def payoutEntries (fields : Record) : List Value :=
  match fields.get "resolution" with
  | .record resolution => (Record.get resolution "payouts").items
  | _ => []

def ofValue : Value → Metadata
  | .record fields =>
    { choices := (Record.get fields "playerChoices").items.filterMap Choice.ofEntry?
      payouts := (payoutEntries fields).filterMap Payout.ofEntry?
      oracleYield := (Record.get fields "oracleYield").amount }
  | _ => empty

def read (fields : Record) : Checked Metadata :=
  Metadata.mk
    <$> Schema.optional fields ["player_choices"]
      (Reader.list (Reader.part "PlayerChoice" Choice.read)) []
    <*> Schema.optional fields ["payouts"] (Reader.list (Reader.part "Payout" Payout.read)) []
    <*> Schema.optional fields ["oracle_yield"] Reader.double 0

def toValue (metadata : Metadata) : Value :=
  .record [
    ("player_choices", .list (metadata.choices.map Choice.toValue)),
    ("payouts", .list (metadata.payouts.map Payout.toValue)),
    ("oracle_yield", .float metadata.oracleYield)]

end Metadata

end ArenaStandings
