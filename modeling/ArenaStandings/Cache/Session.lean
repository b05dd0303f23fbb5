import ArenaStandings.Cache.Fetch

/-!
# Calls at the same time

In a `Session` several calls go through the cache at once. A call runs until it has to wait: for a
lock that another call holds, or inside its fetch. `Session.stretch` runs one call that far, and
`Session.resume` then lets a call that is over leave its lock, and says which call can go on because
of it; which call is resumed when is up to a schedule. `Session.run` is the schedule that takes
calls in the order in which they became able to go on.

A lock belongs to one call at a time. It is handed on in the order in which calls began to wait, and
never to a call that did not wait while others did.
-/

namespace ArenaStandings

/-- A call: the key, the fetch, how often the fetch gives way to others, and how long the value is
kept. -/
structure Call (τ α : Type) where
  key : String
  fetch : Fetch τ α
  yields : Nat
  ttl : Option τ

/-- How far a call has come. -/
inductive Phase (α : Type)
  /-- Not begun. -/
  | arriving
  /-- Waiting for a lock. -/
  | queued (lock : Nat)
  /-- Given a lock, and able to go on. -/
  | woken (lock : Nat)
  /-- Inside the fetch, with the lock it holds, and how often it will give way again. -/
  | fetching (lock : Option Nat) (yields : Nat)
  /-- Over. -/
  | finished (result : Except Failure (Option α))

/-- A call and how far it has come. -/
structure Running (τ α : Type) where
  call : Call τ α
  phase : Phase α

/-- Who has a lock, and who waits for it. -/
structure Mutex where
  holder : Option Nat
  queue : List Nat
  deriving DecidableEq, Repr

/-- Calls that go through a cache at the same time. -/
structure Session (τ α : Type) where
  cache : Cache τ α
  now : τ
  /-- The locks, by number. -/
  mutexes : Table Nat Mutex
  /-- The calls, in the order in which they were made. -/
  calls : List (Running τ α)
  /-- The calls that fetched, in the order in which they began to. -/
  fetches : List Nat

/-- What running a call for one stretch comes to. -/
inductive Stretch (τ α : Type)
  /-- The call waits, gives way or is over, and holds no lock that it has to leave. -/
  | paused (session : Session τ α) (ready : Option Nat)
  /-- The call is over, and has yet to leave the lock that it holds. -/
  | leaving (session : Session τ α) (lock : Nat) (result : Except Failure (Option α))

namespace Session

variable {τ α : Type}

/-- A session in which these calls are about to begin. -/
def start (cache : Cache τ α) (now : τ) (calls : List (Call τ α)) : Session τ α :=
  ⟨cache, now, .empty, calls.map fun call => ⟨call, .arriving⟩, []⟩

/-- A lock; one that nobody has asked for is free. -/
def mutex (session : Session τ α) (lock : Nat) : Mutex :=
  (session.mutexes.find? lock).getD ⟨none, []⟩

def setPhase (session : Session τ α) (id : Nat) (phase : Phase α) : Session τ α :=
  { session with calls := session.calls.modify id fun running => { running with phase := phase } }

def setMutex (session : Session τ α) (lock : Nat) (mutex : Mutex) : Session τ α :=
  { session with mutexes := session.mutexes.insert lock mutex }

/-- Hand a lock on to the first call that waits for it, and say which that is. -/
def handOn (session : Session τ α) (lock : Nat) : Session τ α × Option Nat :=
  match (session.mutex lock).queue with
  | [] => (session.setMutex lock ⟨none, []⟩, none)
  | next :: rest =>
    ((session.setMutex lock ⟨some next, rest⟩).setPhase next (.woken lock), some next)

/-- End a call that holds a lock: the lock is handed on and the slot released. -/
def leave (session : Session τ α) (id : Nat) (lock : Nat) (key : String)
    (result : Except Failure (Option α)) : Session τ α × Option Nat :=
  let (handed, woken) := (session.setPhase id (.finished result)).handOn lock
  ({ handed with cache := handed.cache.release key }, woken)

variable [LE τ] [DecidableLE τ] [Clock τ]

/-- End a fetch: time has passed, and what was fetched under a lock is kept. -/
def complete (session : Session τ α) (id : Nat) (call : Call τ α) (lock : Option Nat) :
    Stretch τ α :=
  let (later, outcome) := call.fetch.run session.now
  match lock with
  | none => .paused ({ session with now := later }.setPhase id (.finished outcome)) none
  | some lock =>
    let written := session.cache.settle later call.key outcome call.ttl
    .leaving { session with now := later, cache := written.cache } lock
      (written.result.bind fun _ => outcome)

/-- Begin a fetch. One that does not give way ends at once. -/
def beginFetch (session : Session τ α) (id : Nat) (call : Call τ α) (lock : Option Nat) :
    Stretch τ α :=
  let begun := { session with fetches := session.fetches ++ [id] }.setPhase id
    (.fetching lock (call.yields - 1))
  match call.yields with
  | 0 => begun.complete id call lock
  | _ + 1 => .paused begun (some id)

/-- Go on with the lock of the key: look again, and fetch if nothing is found. -/
def enter (session : Session τ α) (id : Nat) (call : Call τ α) (lock : Nat) : Stretch τ α :=
  match session.cache.get session.now call.key with
  | (some value, seen) => .leaving { session with cache := seen } lock (.ok (some value))
  | (none, seen) => { session with cache := seen }.beginFetch id call (some lock)

/-- Join the callers of the key: the call is given the lock if it is free, and waits for it if
not. -/
def join (session : Session τ α) (id : Nat) (call : Call τ α) : Stretch τ α :=
  let (lock, joined) := session.cache.acquire call.key
  let session := { session with cache := joined }
  match session.mutex lock with
  | ⟨none, []⟩ =>
    ((session.setMutex lock ⟨some id, []⟩).setPhase id (.woken lock)).enter id call lock
  | ⟨holder, queue⟩ =>
    .paused ((session.setMutex lock ⟨holder, queue ++ [id]⟩).setPhase id (.queued lock)) none

/-- Begin a call: look the key up, and ask for its lock if nothing is found. -/
def arrive (session : Session τ α) (id : Nat) (call : Call τ α) : Stretch τ α :=
  if !session.cache.enabled then session.beginFetch id call none
  else match session.cache.get session.now call.key with
    | (some value, seen) =>
      .paused ({ session with cache := seen }.setPhase id (.finished (.ok (some value)))) none
    | (none, seen) => { session with cache := seen }.join id call

/-- Run a call until it has to wait or is over, but do not let it leave its lock yet. A call that
cannot go on stays as it is. -/
def stretch (session : Session τ α) (id : Nat) (running : Running τ α) : Stretch τ α :=
  match running.phase with
  | .arriving => session.arrive id running.call
  | .queued _ => .paused session none
  | .woken lock => session.enter id running.call lock
  | .fetching lock 0 => session.complete id running.call lock
  | .fetching lock (yields + 1) =>
    .paused (session.setPhase id (.fetching lock yields)) (some id)
  | .finished _ => .paused session none

/-- Run a call until it has to wait or is over, and say which call can go on because of it. -/
def resume (session : Session τ α) (id : Nat) : Session τ α × Option Nat :=
  match session.calls[id]? with
  | none => (session, none)
  | some running =>
    match session.stretch id running with
    | .paused next ready => (next, ready)
    | .leaving next lock result => next.leave id lock running.call.key result

/-- Resume calls in the order in which they became able to go on, at most as often as the first
argument says. -/
def runFor : Nat → List Nat → Session τ α → Session τ α
  | 0, _, session => session
  | _, [], session => session
  | count + 1, id :: ready, session =>
    let (next, woken) := session.resume id
    runFor count (ready ++ woken.toList) next

/-- How often calls are resumed at most: to begin, after each time a fetch gives way, and once
after waiting. -/
def resumptions (calls : List (Call τ α)) : Nat :=
  (calls.map fun call => call.yields + 2).foldr (· + ·) 0

/-- Begin calls all at once, in order, and run them to their ends. -/
def run (cache : Cache τ α) (now : τ) (calls : List (Call τ α)) : Session τ α :=
  runFor (resumptions calls) (List.range calls.length) (start cache now calls)

/-- What a call came to, if it is over. -/
def result? (session : Session τ α) (id : Nat) : Option (Except Failure (Option α)) :=
  match session.calls[id]? with
  | some ⟨_, .finished result⟩ => some result
  | _ => none

/-- The calls of a key that fetched, in the order in which they began to. -/
def fetchesOf (session : Session τ α) (key : String) : List Nat :=
  session.fetches.filter fun id => (session.calls[id]?).any fun running => running.call.key == key

end Session

end ArenaStandings
