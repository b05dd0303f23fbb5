import ArenaStandings.Connection.Basic
import Mathlib.Data.List.Induction

/-!
# Calls on a connection

Calls on a connection come one after the other. A client is kept from the call that opens it to the
next call that closes it, and the ping has no say in this: a connect that fails has opened a client
and leaves it in place with its database. Until it is closed the connection looks as if the connect
had succeeded. Its database is handed out, and every further connect does nothing
(`Connection.kept_of_failed_connect`).
-/

namespace ArenaStandings

/-- A call on a connection. The ping of a connect fails with a fault, or does not fail. -/
inductive ConnectionCall
  | connect (pingFault : Option Fault)
  | disconnect
  | getDatabase
  deriving DecidableEq, Repr

namespace Connection

variable {settings : Settings} {connection : Connection} {client : Nat} {pingFault : Option Fault}
  {call : ConnectionCall} {calls earlier later : List ConnectionCall}

/-! ## One call -/

/-- The connection with a new client in place of the one it holds. -/
def opening (connection : Connection) : Connection :=
  { connection with
    client := some connection.opened
    database := some ⟨connection.opened, []⟩
    opened := connection.opened + 1 }

theorem begin?_of_free (free : connection.client = none) :
    connection.begin? = some connection.opening := by
  rw [begin?, free]
  rfl

theorem begin?_of_held (held : connection.client = some client) : connection.begin? = none := by
  rw [begin?, held]
  rfl

/-- A connect that finds a client does nothing, and does not ping. -/
theorem connect_of_held (held : connection.client = some client) (settings : Settings)
    (pingFault : Option Fault) :
    connection.connect settings pingFault = ⟨connection, .ok (), [], []⟩ := by
  rw [connect, begin?_of_held held]

/-- A connect that finds no client opens one and pings, and fails only after that. -/
theorem connect_of_free (free : connection.client = none) (settings : Settings)
    (pingFault : Option Fault) :
    (connection.connect settings pingFault).connection = connection.opening ∧
      .ping ∈ (connection.connect settings pingFault).events ∧
      (connection.connect settings pingFault).result =
        pingFault.elim (.ok ()) fun fault => .error (.raised fault) := by
  rw [connect, begin?_of_free free]
  cases pingFault <;> simp

/-- A connect fails exactly if it finds no client and its ping fails. -/
theorem result_connect_eq_error {failure : Failure} :
    (connection.connect settings pingFault).result = .error failure ↔
      connection.client = none ∧
        ∃ fault, pingFault = some fault ∧ failure = .raised fault := by
  cases held : connection.client with
  | some client => simp [connect_of_held held]
  | none =>
    rw [(connect_of_free held settings pingFault).2.2]
    cases pingFault <;> simp [eq_comm]

theorem client_disconnect (connection : Connection) :
    connection.disconnect.connection.client = none := by
  cases held : connection.client with
  | none => rwa [disconnect, held]
  | some client => rw [disconnect, held]

/-- What a call leaves. -/
def leave (settings : Settings) (connection : Connection) : ConnectionCall → Connection
  | .connect pingFault => (connection.connect settings pingFault).connection
  | .disconnect => connection.disconnect.connection
  | .getDatabase => connection

/-- A client stays until it is closed. -/
theorem leave_of_held (held : connection.client = some client) (stays : call ≠ .disconnect) :
    connection.leave settings call = connection := by
  cases call with
  | connect pingFault => rw [leave, connect_of_held held]
  | disconnect => exact (stays rfl).elim
  | getDatabase => rfl

/-- The database is that of the client, and there is none without a client. -/
def IsCoherent (connection : Connection) : Prop :=
  connection.database = connection.client.map fun client => ⟨client, []⟩

theorem IsCoherent.database_of_free (coherent : connection.IsCoherent)
    (free : connection.client = none) : connection.database = none := by
  rw [coherent, free]
  rfl

theorem isCoherent_leave (settings : Settings) (coherent : connection.IsCoherent)
    (call : ConnectionCall) :
    (connection.leave settings call).IsCoherent := by
  cases held : connection.client with
  | none =>
    cases call with
    | connect pingFault =>
      rw [leave, (connect_of_free held settings pingFault).1]
      rfl
    | disconnect => rwa [leave, disconnect, held]
    | getDatabase => exact coherent
  | some client =>
    by_cases closes : call = .disconnect
    · rw [closes, leave, disconnect, held]
      rfl
    · rwa [leave_of_held held closes]

/-! ## Calls in turn -/

/-- What calls leave. -/
def after (settings : Settings) (connection : Connection) (calls : List ConnectionCall) :
    Connection :=
  calls.foldl (leave settings) connection

theorem after_append :
    connection.after settings (earlier ++ later) =
      (connection.after settings earlier).after settings later :=
  List.foldl_append

theorem after_append_singleton :
    connection.after settings (calls ++ [call]) =
      (connection.after settings calls).leave settings call :=
  after_append

theorem after_cons :
    connection.after settings (call :: calls) =
      (connection.leave settings call).after settings calls :=
  rfl

/-- A client stays until it is closed, whatever is called until then. -/
theorem after_of_held (held : connection.client = some client) (stays : .disconnect ∉ calls) :
    connection.after settings calls = connection := by
  induction calls with
  | nil => rfl
  | cons call calls ih =>
    rw [List.mem_cons, not_or] at stays
    rw [after_cons, leave_of_held held (Ne.symm stays.1), ih stays.2]

theorem isCoherent_after (settings : Settings) (calls : List ConnectionCall) :
    (new.after settings calls).IsCoherent := by
  induction calls using List.reverseRecOn with
  | nil => rfl
  | append_singleton calls call ih =>
    rw [after_append_singleton]
    exact isCoherent_leave settings ih call

/-- The connect that opened what a new connection holds after calls: it found no client, and since
then none was closed. -/
structure OpenedBy (settings : Settings) (calls earlier : List ConnectionCall)
    (pingFault : Option Fault) (later : List ConnectionCall) : Prop where
  split : calls = earlier ++ .connect pingFault :: later
  free : (new.after settings earlier).client = none
  kept : .disconnect ∉ later

namespace OpenedBy

/-- What a connect opened is there as the connect left it, whether or not its ping failed. -/
theorem after_eq (opened : OpenedBy settings calls earlier pingFault later) :
    new.after settings calls = (new.after settings earlier).opening := by
  have left : (new.after settings earlier).leave settings (.connect pingFault) =
      (new.after settings earlier).opening :=
    (connect_of_free opened.free settings pingFault).1
  rw [opened.split, after_append, after_cons, left]
  exact after_of_held rfl opened.kept

/-- What is held stays opened by the same connect if another call leaves it there. -/
theorem append (opened : OpenedBy settings calls earlier pingFault later)
    (stays : call ≠ .disconnect) :
    OpenedBy settings (calls ++ [call]) earlier pingFault (later ++ [call]) where
  split := by rw [opened.split, List.append_assoc, List.cons_append]
  free := opened.free
  kept := by
    rw [List.mem_append, List.mem_singleton]
    exact not_or.2 ⟨opened.kept, Ne.symm stays⟩

end OpenedBy

/-- Every client that is held was opened by a connect. -/
theorem exists_openedBy (held : (new.after settings calls).client = some client) :
    ∃ earlier pingFault later, OpenedBy settings calls earlier pingFault later := by
  induction calls using List.reverseRecOn generalizing client with
  | nil => cases held
  | append_singleton calls call ih =>
    rw [after_append_singleton] at held
    have notClosed : call ≠ .disconnect := by
      intro closes
      rw [closes, leave, client_disconnect] at held
      cases held
    cases before : (new.after settings calls).client with
    | some client =>
      obtain ⟨earlier, pingFault, later, opened⟩ := ih before
      exact ⟨earlier, pingFault, later ++ [call], opened.append notClosed⟩
    | none =>
      cases call with
      | connect pingFault => exact ⟨calls, pingFault, [], rfl, before, List.not_mem_nil⟩
      | disconnect => exact (notClosed rfl).elim
      | getDatabase => cases before.symm.trans held

/-- A database is handed out exactly if a connect opened its client and nothing has closed it. -/
theorem getDatabase_eq_ok {database : Database} :
    (new.after settings calls).getDatabase = .ok database ↔
      ∃ earlier pingFault later, OpenedBy settings calls earlier pingFault later ∧
        database = ⟨(new.after settings earlier).opened, []⟩ := by
  constructor
  · intro given
    cases held : (new.after settings calls).client with
    | none =>
      rw [getDatabase, (isCoherent_after settings calls).database_of_free held] at given
      cases given
    | some client =>
      obtain ⟨earlier, pingFault, later, opened⟩ := exists_openedBy held
      refine ⟨earlier, pingFault, later, opened, ?_⟩
      rw [opened.after_eq] at given
      exact (Except.ok.inj given).symm
  · rintro ⟨earlier, pingFault, later, opened, rfl⟩
    rw [opened.after_eq]
    rfl

/-- **What a connect that fails leaves behind.** A connect fails exactly if it finds no client and
its ping fails. It then leaves the client that it opened, with its database: until the next
disconnect the database is handed out and every connect does nothing, and only the disconnect leaves
the connection as it was before, so that a connect opens and pings again. In general a database is
handed out exactly if a connect opened its client and nothing has closed it, so its ping succeeded
exactly if that connect did not fail. -/
theorem kept_of_failed_connect (settings : Settings) (calls : List ConnectionCall) :
    let connection := new.after settings calls
    (∀ pingFault failure, (connection.connect settings pingFault).result = .error failure ↔
      connection.client = none ∧
        ∃ fault, pingFault = some fault ∧ failure = .raised fault) ∧
    (∀ fault later, connection.client = none → .disconnect ∉ later →
      let kept := new.after settings (calls ++ .connect (some fault) :: later)
      let left := kept.disconnect.connection
      kept.client = some connection.opened ∧
        kept.getDatabase = .ok ⟨connection.opened, []⟩ ∧
        (∀ pingFault, kept.connect settings pingFault = ⟨kept, .ok (), [], []⟩) ∧
        left.client = connection.client ∧ left.database = connection.database ∧
        ∀ pingFault, .ping ∈ (left.connect settings pingFault).events) ∧
    ∀ database, connection.getDatabase = .ok database ↔
      ∃ earlier pingFault later, OpenedBy settings calls earlier pingFault later ∧
        database = ⟨(new.after settings earlier).opened, []⟩ := by
  intro connection
  refine ⟨fun _ _ => result_connect_eq_error, fun fault later free stays => ?_,
    fun _ => getDatabase_eq_ok⟩
  intro kept left
  have opened : OpenedBy settings (calls ++ .connect (some fault) :: later) calls
      (some fault) later :=
    ⟨rfl, free, stays⟩
  have same : kept = connection.opening := opened.after_eq
  have closed : left.client = none := client_disconnect kept
  have coherent : left.IsCoherent :=
    isCoherent_leave settings (isCoherent_after settings _) .disconnect
  refine ⟨by rw [same]; rfl, by rw [same]; rfl, ?_, closed.trans free.symm, ?_, ?_⟩
  · exact fun pingFault => connect_of_held (by rw [same]; rfl) settings pingFault
  · rw [coherent.database_of_free closed, (isCoherent_after settings calls).database_of_free free]
  · exact fun pingFault => (connect_of_free closed settings pingFault).2.1

/-- The first connect fails, and yet its client and its database are there, the database is handed
out, and a connect that could succeed is not tried. -/
theorem failed_connect_not_undone :
    let failed := new.connect .default (some ⟨.noServer, "timed out"⟩)
    failed.result = .error (.raised ⟨.noServer, "timed out"⟩) ∧
      failed.connection.client ≠ new.client ∧ failed.connection.database ≠ new.database ∧
      failed.connection.getDatabase = .ok ⟨0, []⟩ ∧
      (failed.connection.connect .default none).events = [] := by
  refine ⟨rfl, ?_, ?_, rfl, rfl⟩
  · exact Option.some_ne_none 0
  · exact Option.some_ne_none (⟨0, []⟩ : Database)

end Connection

end ArenaStandings
