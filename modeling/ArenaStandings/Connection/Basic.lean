import ArenaStandings.Config.Settings
import ArenaStandings.Failure
import ArenaStandings.Log
import ArenaStandings.Store.Basic

/-!
# The connection to the storage

A `Connection` holds at most one open client and the database that was looked up through it. Opening
takes two steps: `Connection.begin?` opens a client and keeps it with its database, and then the
client is pinged. Whatever happens between the two steps meets the new client, and a ping that fails
leaves it in place. Clients are numbered in the order in which they are opened, and the connection
remembers which were closed.
-/

namespace ArenaStandings

/-- What can be seen of a connection from outside. -/
inductive ConnectionEvent
  | opened (address : String)
  | database (name : String)
  | ping
  | closed
  | serving (connected : Bool)
  deriving DecidableEq, Repr

/-- The most and the fewest connections that a client keeps open. -/
def poolSizes : Nat × Nat := (10, 2)

def ConnectionEvent.text : ConnectionEvent → String
  | opened address =>
    "open " ++ address ++ " maxPoolSize=" ++ toString poolSizes.1 ++ " minPoolSize=" ++
      toString poolSizes.2
  | database name => "database " ++ name
  | ping => "command ping"
  | closed => "close"
  | serving connected => if connected then "serving" else "serving without db"

/-- A database, with the client through which it was looked up. -/
structure Database where
  client : Nat
  /-- The collections on which no index can be made. -/
  faults : List (Shelf × Fault)
  deriving DecidableEq, Repr

/-- The clients that were opened, and which of them is held. -/
structure Connection where
  client : Option Nat
  database : Option Database
  /-- How many clients were opened. -/
  opened : Nat
  /-- The clients that were closed, the latest first. -/
  closed : List Nat
  deriving DecidableEq, Repr

/-- What a step of a connection comes to. -/
structure ConnectionStep where
  connection : Connection
  result : Except Failure Unit
  events : List ConnectionEvent
  lines : List LogLine

namespace Connection

/-- A connection that was never opened. -/
def new : Connection := ⟨none, none, 0, []⟩

/-- Open a client and keep it with its database, unless there is one. -/
def begin? (connection : Connection) : Option Connection :=
  if connection.client.isSome then none
  else some
    { connection with
      client := some connection.opened
      database := some ⟨connection.opened, []⟩
      opened := connection.opened + 1 }

def openedLine (name : String) : LogLine := .info ("✅ Connected to MongoDB: " ++ name)

def closedLine : LogLine := .info "❌ Disconnected from MongoDB"

/-- Open the connection; the ping fails with a fault, or does not fail. An open connection is left
as it is and not pinged. -/
def connect (connection : Connection) (settings : Settings) (pingFault : Option Fault) :
    ConnectionStep :=
  match connection.begin? with
  | none => ⟨connection, .ok (), [], []⟩
  | some begun =>
    let events := [.opened settings.storageAddress, .database settings.storageName, .ping]
    match pingFault with
    | some fault => ⟨begun, .error (.raised fault), events, []⟩
    | none => ⟨begun, .ok (), events, [openedLine settings.storageName]⟩

/-- Close the client that is held, if there is one. -/
def disconnect (connection : Connection) : ConnectionStep :=
  match connection.client with
  | none => ⟨connection, .ok (), [], []⟩
  | some client =>
    ⟨{ connection with client := none, database := none, closed := client :: connection.closed },
      .ok (), [.closed], [closedLine]⟩

def getDatabase (connection : Connection) : Except Failure Database :=
  match connection.database with
  | some database => .ok database
  | none => .error .notConnected

/-- Open the connection, serve, and close it. If it cannot be opened, nothing is served and nothing
is closed. -/
def serve (connection : Connection) (settings : Settings) (pingFault : Option Fault) :
    ConnectionStep :=
  let opening := connection.connect settings pingFault
  match opening.result with
  | .error _ => opening
  | .ok () =>
    let closing := opening.connection.disconnect
    { closing with
      events := opening.events ++ .serving opening.connection.database.isSome :: closing.events
      lines := opening.lines ++ closing.lines }

/-- Make indexes on a collection of the database fail, or succeed again. -/
def setIndexFault (connection : Connection) (shelf : Shelf) (fault : Option Fault) : Connection :=
  { connection with
    database := connection.database.map fun database =>
      let others := database.faults.filter fun entry => entry.1 ≠ shelf
      { database with faults := (fault.toList.map fun fault => (shelf, fault)) ++ others } }

end Connection

end ArenaStandings
