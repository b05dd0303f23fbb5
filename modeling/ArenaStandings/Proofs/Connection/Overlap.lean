import ArenaStandings.Proofs.Connection.Calls

/-!
# Connects that overlap

A connect gives way once, when it has opened a client and waits for its ping. Until the ping is
answered other calls go on: they may close the client that is being pinged, and open the next one.
`Connecting` is a connection with the clients that are being pinged, and an interleaving is a list
of what happens to it (`Connecting.Event`). The answer to a ping leaves the connection as it is by
then, and every other stretch of a call opens a client where none is held, or closes the one that is
held. So the clients that are open are the one that is held, with its database, in every
interleaving (`Connecting.lifecycle_after`).
-/

namespace ArenaStandings

namespace Connection

variable {settings : Settings} {connection begun : Connection} {client : Nat}

/-- What a connect comes to when its ping is answered: the fault is raised, or the connection is
reported. The connection is left as it is found. -/
def answer (connection : Connection) (settings : Settings) (pingFault : Option Fault) :
    ConnectionStep :=
  match pingFault with
  | some fault => ⟨connection, .error (.raised fault), [], []⟩
  | none => ⟨connection, .ok (), [], [openedLine settings.storageName]⟩

/-- A connect opens a client and pings it, and ends with the answer. -/
theorem connect_eq_answer (connection : Connection) (settings : Settings)
    (pingFault : Option Fault) :
    connection.connect settings pingFault =
      match connection.begin? with
      | none => ⟨connection, .ok (), [], []⟩
      | some begun =>
        { begun.answer settings pingFault with
          events := [.opened settings.storageAddress, .database settings.storageName, .ping] } := by
  unfold connect
  cases connection.begin? with
  | none => rfl
  | some begun => cases pingFault <;> rfl

theorem connection_answer (connection : Connection) (settings : Settings)
    (pingFault : Option Fault) :
    (connection.answer settings pingFault).connection = connection := by
  cases pingFault <;> rfl

theorem begin?_eq_some_iff :
    connection.begin? = some begun ↔ connection.client = none ∧ begun = connection.opening := by
  cases held : connection.client with
  | none => rw [begin?_of_free held, Option.some.injEq, eq_comm, and_iff_right rfl]
  | some client => simp [begin?_of_held held]

/-! ## Open clients -/

/-- A client was opened, and has not been closed. -/
def IsOpen (connection : Connection) (client : Nat) : Prop :=
  client < connection.opened ∧ client ∉ connection.closed

/-- Every client was closed at most once, and the one that is held, with its database, is the only
one that is open. -/
structure IsTidy (connection : Connection) : Prop where
  coherent : connection.IsCoherent
  closedOnce : connection.closed.Nodup
  closed_lt : ∀ client ∈ connection.closed, client < connection.opened
  isOpen_iff : ∀ client, connection.IsOpen client ↔ connection.client = some client

theorem isTidy_new : new.IsTidy where
  coherent := rfl
  closedOnce := List.nodup_nil
  closed_lt := by
    intro client member
    cases member
  isOpen_iff := by
    intro client
    constructor
    · intro isOpen
      exact absurd isOpen.1 (Nat.not_lt_zero client)
    · intro held
      cases held

/-- A client that is opened where none is held is the only one that is open. -/
theorem IsTidy.opening (tidy : connection.IsTidy) (free : connection.client = none) :
    connection.opening.IsTidy where
  coherent := rfl
  closedOnce := tidy.closedOnce
  closed_lt := by
    intro client member
    exact Nat.lt_succ_of_lt (tidy.closed_lt client member)
  isOpen_iff := by
    intro client
    have noneOpen : ¬ connection.IsOpen client := by
      intro isOpen
      cases free.symm.trans ((tidy.isOpen_iff client).1 isOpen)
    constructor
    · intro isOpen
      have opened : client < connection.opened + 1 := isOpen.1
      by_cases earlier : client < connection.opened
      · exact (noneOpen ⟨earlier, isOpen.2⟩).elim
      · have newest : connection.opened = client := by omega
        exact congrArg some newest
    · intro held
      have newest : connection.opened = client := Option.some.inj held
      subst newest
      refine ⟨Nat.lt_succ_self _, fun member => ?_⟩
      exact Nat.lt_irrefl _ (tidy.closed_lt _ member)

/-- Closing the client that is held leaves none open, and it was not closed before. -/
theorem IsTidy.disconnect (tidy : connection.IsTidy) : connection.disconnect.connection.IsTidy := by
  cases held : connection.client with
  | none =>
    rw [Connection.disconnect, held]
    exact tidy
  | some client =>
    have isOpen : connection.IsOpen client := (tidy.isOpen_iff client).2 held
    rw [Connection.disconnect, held]
    refine ⟨rfl, List.nodup_cons.2 ⟨isOpen.2, tidy.closedOnce⟩, ?_, ?_⟩
    · intro closed member
      rcases List.mem_cons.1 member with same | before
      · rw [same]
        exact isOpen.1
      · exact tidy.closed_lt closed before
    · intro other
      constructor
      · intro stillOpen
        obtain ⟨differs, unclosed⟩ := not_or.1 (List.mem_cons.not.1 stillOpen.2)
        have same : connection.client = some other :=
          (tidy.isOpen_iff other).1 ⟨stillOpen.1, unclosed⟩
        exact (differs (Option.some.inj (same.symm.trans held))).elim
      · intro nothing
        cases nothing

/-- There is a database exactly if a client is held. -/
theorem IsCoherent.client_eq_none_iff (coherent : connection.IsCoherent) :
    connection.client = none ↔ connection.database = none := by
  rw [coherent, Option.map_eq_none_iff]

/-- No database is handed out exactly if there is none. -/
theorem getDatabase_eq_error_iff {failure : Failure} :
    connection.getDatabase = .error failure ↔
      connection.database = none ∧ failure = .notConnected := by
  unfold getDatabase
  cases connection.database with
  | none => simp [eq_comm]
  | some database => simp

/-- The database that is handed out is that of the client that is held. -/
theorem IsCoherent.getDatabase_eq_ok_iff (coherent : connection.IsCoherent) {database : Database} :
    connection.getDatabase = .ok database ↔
      ∃ client, connection.client = some client ∧ database = ⟨client, []⟩ := by
  unfold getDatabase
  rw [coherent]
  cases connection.client with
  | none => simp
  | some client => simp [eq_comm]

end Connection

/-! ## Interleavings -/

/-- A connection, and the clients that are being pinged by the connects that opened them. -/
structure Connecting where
  connection : Connection
  pinging : List Nat

namespace Connecting

variable {settings : Settings} {state : Connecting}

/-- What can happen to a connection. -/
inductive Event
  /-- A connect is called, and goes as far as its ping. -/
  | connect
  /-- The ping of a client is answered, with a fault or without, and the connect that waits for it
  ends. -/
  | answer (client : Nat) (pingFault : Option Fault)
  | disconnect
  | getDatabase
  deriving DecidableEq

def new : Connecting := ⟨.new, []⟩

/-- The state after an event. An answer that nobody waits for changes nothing. -/
def step (settings : Settings) (state : Connecting) : Event → Connecting
  | .connect =>
    match state.connection.begin? with
    | none => state
    | some begun => ⟨begun, state.connection.opened :: state.pinging⟩
  | .answer client pingFault =>
    if client ∈ state.pinging then
      ⟨(state.connection.answer settings pingFault).connection, state.pinging.erase client⟩
    else state
  | .disconnect => { state with connection := state.connection.disconnect.connection }
  | .getDatabase => state

def after (settings : Settings) (state : Connecting) (events : List Event) : Connecting :=
  events.foldl (step settings) state

/-- The connection is tidy, and every ping that waits for an answer is that of another client. -/
structure IsSound (state : Connecting) : Prop where
  tidy : state.connection.IsTidy
  pingedOnce : state.pinging.Nodup
  pinging_lt : ∀ client ∈ state.pinging, client < state.connection.opened

theorem isSound_new : new.IsSound where
  tidy := Connection.isTidy_new
  pingedOnce := List.nodup_nil
  pinging_lt := by
    intro client member
    cases member

/-- Opening a client adds its ping to those that wait. -/
theorem IsSound.connect (sound : state.IsSound) (settings : Settings) :
    (state.step settings .connect).IsSound := by
  unfold step
  cases begins : state.connection.begin? with
  | none => exact sound
  | some begun =>
    obtain ⟨free, rfl⟩ := Connection.begin?_eq_some_iff.1 begins
    refine ⟨sound.tidy.opening free, List.nodup_cons.2 ⟨?_, sound.pingedOnce⟩, ?_⟩
    · intro member
      exact Nat.lt_irrefl _ (sound.pinging_lt _ member)
    · intro client member
      rcases List.mem_cons.1 member with newest | before
      · rw [newest]
        exact Nat.lt_succ_self _
      · exact Nat.lt_succ_of_lt (sound.pinging_lt client before)

/-- The answer to a ping ends a connect and leaves the connection alone. -/
theorem IsSound.answer (sound : state.IsSound) (settings : Settings) (client : Nat)
    (pingFault : Option Fault) : (state.step settings (.answer client pingFault)).IsSound := by
  by_cases waits : client ∈ state.pinging
  · rw [Connecting.step, if_pos waits, Connection.connection_answer]
    refine ⟨sound.tidy, sound.pingedOnce.erase client, ?_⟩
    intro other member
    exact sound.pinging_lt other (List.mem_of_mem_erase member)
  · rw [Connecting.step, if_neg waits]
    exact sound

theorem IsSound.disconnect (sound : state.IsSound) (settings : Settings) :
    (state.step settings .disconnect).IsSound where
  tidy := sound.tidy.disconnect
  pingedOnce := sound.pingedOnce
  pinging_lt := by
    have opened : state.connection.disconnect.connection.opened = state.connection.opened := by
      unfold Connection.disconnect
      cases state.connection.client <;> rfl
    intro client member
    change client < state.connection.disconnect.connection.opened
    rw [opened]
    exact sound.pinging_lt client member

/-- Every event keeps the state sound. -/
theorem IsSound.step (sound : state.IsSound) (settings : Settings) (event : Event) :
    (state.step settings event).IsSound := by
  cases event with
  | connect => exact sound.connect settings
  | answer client pingFault => exact sound.answer settings client pingFault
  | disconnect => exact sound.disconnect settings
  | getDatabase => exact sound

theorem IsSound.after (sound : state.IsSound) (settings : Settings) (events : List Event) :
    (state.after settings events).IsSound := by
  induction events generalizing state with
  | nil => exact sound
  | cons event events ih => exact ih (sound.step settings event)

/-! ## Calls in turn -/

/-- The events of a call that is over before anything else happens. -/
def eventsOf (connection : Connection) : ConnectionCall → List Event
  | .connect pingFault =>
    if connection.client.isSome then [.connect]
    else [.connect, .answer connection.opened pingFault]
  | .disconnect => [.disconnect]
  | .getDatabase => [.getDatabase]

/-- **A call in turn is an interleaving.** If nothing happens between the ping of a connect and its
answer, the two stretches do what the connect does. -/
theorem after_eventsOf (state : Connecting) (settings : Settings) (call : ConnectionCall) :
    state.after settings (eventsOf state.connection call) =
      { state with connection := state.connection.leave settings call } := by
  cases call with
  | disconnect => rfl
  | getDatabase => rfl
  | connect pingFault =>
    unfold eventsOf
    cases held : state.connection.client with
    | some client =>
      rw [Connection.leave, Connection.connect_of_held held]
      simp [after, step, Connection.begin?_of_held held]
    | none =>
      rw [Connection.leave, (Connection.connect_of_free held settings pingFault).1]
      simp [after, step, Connection.begin?_of_free held, Connection.connection_answer]

/-! ## The lifecycle of clients -/

/-- **The lifecycle of clients.** Whatever connects, disconnects and look-ups interleave, and
whatever their pings come to, a client is held exactly if a database is; the clients that were
opened and not closed are exactly the one that is held; every client is closed at most once, and
none that was not opened; and a database is refused exactly if there is none, and is otherwise that
of the open client. -/
theorem lifecycle_after (settings : Settings) (events : List Event) :
    let connection := (new.after settings events).connection
    (connection.client = none ↔ connection.database = none) ∧
      (∀ client, client < connection.opened ∧ client ∉ connection.closed ↔
        connection.client = some client) ∧
      connection.closed.Nodup ∧ (∀ client ∈ connection.closed, client < connection.opened) ∧
      (∀ failure, connection.getDatabase = .error failure ↔
        connection.database = none ∧ failure = .notConnected) ∧
      ∀ database, connection.getDatabase = .ok database ↔
        ∃ client, connection.client = some client ∧ database = ⟨client, []⟩ := by
  intro connection
  have tidy : connection.IsTidy := (isSound_new.after settings events).tidy
  refine ⟨tidy.coherent.client_eq_none_iff, tidy.isOpen_iff, tidy.closedOnce,
    tidy.closed_lt, ?_, ?_⟩
  · exact fun _ => Connection.getDatabase_eq_error_iff
  · exact fun _ => tidy.coherent.getDatabase_eq_ok_iff

/-- The client of the first connect is closed while it is pinged, and the second connect opens
another before the first one fails. -/
example :
    let state := new.after .default
      [.connect, .disconnect, .connect, .answer 0 (some ⟨.noServer, "timed out"⟩)]
    state.connection.client = some 1 ∧ state.connection.closed = [0] ∧ state.pinging = [1] := by
  decide

end Connecting

end ArenaStandings
