import ArenaStandings.Cache.Session

/-!
# Interleavings of calls

Whatever calls a session has, they can be resumed in any order, time can pass between any two
stretches, and the pages of the leaderboard can be removed while fetches are under way. An
interleaving is a list of such events (`Session.Event`), and `Session.after` is the session that it
leads to.

A call is inside from the moment at which it joins the callers of its key until it leaves its lock:
`Phase.held?` and `Phase.awaited?` say which lock a call holds or waits for, and `Session.users`
counts the calls of a key that are inside.
-/

namespace ArenaStandings

namespace Phase

variable {α : Type}

def held? : Phase α → Option Nat
  | woken lock => some lock
  | fetching lock _ => lock
  | _ => none

def awaited? : Phase α → Option Nat
  | queued lock => some lock
  | _ => none

/-- The lock of a call that is inside: the one that it holds or waits for. -/
def lock? (phase : Phase α) : Option Nat := phase.held?.or phase.awaited?

theorem lock?_eq_some_iff {phase : Phase α} {lock : Nat} :
    phase.lock? = some lock ↔ phase.held? = some lock ∨ phase.awaited? = some lock := by
  cases phase with
  | fetching held yields => cases held <;> simp [lock?, held?, awaited?]
  | _ => simp [lock?, held?, awaited?]

end Phase

namespace Stretch

variable {τ α : Type}

/-- The session in which a stretch ends, before the call leaves its lock. -/
def session : Stretch τ α → Session τ α
  | paused next _ => next
  | leaving next _ _ => next

/-- The session after a stretch of a call with a key, and the call that can go on because of it: a
call that is over leaves its lock. -/
def left (id : Nat) (key : String) : Stretch τ α → Session τ α × Option Nat
  | paused next ready => (next, ready)
  | leaving next lock result => next.leave id lock key result

end Stretch

namespace Session

variable {τ α : Type}

/-! ## Looking at a call -/

def call? (session : Session τ α) (id : Nat) : Option (Call τ α) :=
  session.calls[id]?.map Running.call

def phase? (session : Session τ α) (id : Nat) : Option (Phase α) :=
  session.calls[id]?.map Running.phase

/-- The call holds the lock. -/
def Holds (session : Session τ α) (id lock : Nat) : Prop :=
  (session.phase? id).bind Phase.held? = some lock

/-- The call waits for the lock. -/
def Awaits (session : Session τ α) (id lock : Nat) : Prop :=
  (session.phase? id).bind Phase.awaited? = some lock

/-- The call has joined the callers of the key and not left them yet, and this is its lock. -/
def Inside (session : Session τ α) (key : String) (id lock : Nat) : Prop :=
  (∃ call, session.call? id = some call ∧ call.key = key) ∧
    (session.Holds id lock ∨ session.Awaits id lock)

/-- The call has the key and is inside its fetch. -/
def Fetching (session : Session τ α) (key : String) (id : Nat) : Prop :=
  (∃ call, session.call? id = some call ∧ call.key = key) ∧
    ∃ lock yields, session.phase? id = some (.fetching lock yields)

/-- How many calls of a key are inside. -/
def users (session : Session τ α) (key : String) : Nat :=
  session.calls.countP fun running => running.call.key = key && running.phase.lock?.isSome

@[simp] theorem call?_start (cache : Cache τ α) (now : τ) (calls : List (Call τ α))
    (id : Nat) : (start cache now calls).call? id = calls[id]? := by
  simp [call?, start, Function.comp_def]

theorem phase?_start (cache : Cache τ α) (now : τ) (calls : List (Call τ α)) (id : Nat) :
    (start cache now calls).phase? id = calls[id]?.map fun _ => .arriving := by
  simp [phase?, start, Function.comp_def]

theorem calls_of_call?_phase? {session : Session τ α} {id : Nat} {call : Call τ α}
    {phase : Phase α} (made : session.call? id = some call)
    (come : session.phase? id = some phase) : session.calls[id]? = some ⟨call, phase⟩ := by
  obtain ⟨running, found, rfl⟩ := Option.map_eq_some_iff.1 made
  obtain ⟨again, found', rfl⟩ := Option.map_eq_some_iff.1 come
  rw [found] at found'
  cases found'
  exact found

@[simp] theorem call?_setPhase (session : Session τ α) (id other : Nat) (phase : Phase α) :
    (session.setPhase id phase).call? other = session.call? other := by
  simp only [call?, setPhase, List.getElem?_modify]
  split <;> cases session.calls[other]? <;> rfl

theorem phase?_setPhase (session : Session τ α) (id other : Nat) (phase : Phase α) :
    (session.setPhase id phase).phase? other =
      if other = id then (session.phase? id).map fun _ => phase else session.phase? other := by
  simp only [phase?, setPhase, List.getElem?_modify]
  by_cases same : other = id
  · subst same
    cases session.calls[other]? <;> simp
  · have differ : ¬ id = other := fun equal => same equal.symm
    simp [same, differ]

theorem phase?_setPhase_self {session : Session τ α} {id : Nat} {old : Phase α}
    (come : session.phase? id = some old) (phase : Phase α) :
    (session.setPhase id phase).phase? id = some phase := by
  rw [phase?_setPhase, if_pos rfl, come, Option.map_some]

theorem phase?_setPhase_of_ne {id other : Nat} (differ : other ≠ id) (session : Session τ α)
    (phase : Phase α) : (session.setPhase id phase).phase? other = session.phase? other := by
  rw [phase?_setPhase, if_neg differ]

theorem holds_setPhase {session : Session τ α} {id : Nat} {old : Phase α}
    (come : session.phase? id = some old) (phase : Phase α) (other lock : Nat) :
    (session.setPhase id phase).Holds other lock ↔
      if other = id then phase.held? = some lock else session.Holds other lock := by
  unfold Holds
  rw [phase?_setPhase]
  split <;> simp [come]

theorem awaits_setPhase {session : Session τ α} {id : Nat} {old : Phase α}
    (come : session.phase? id = some old) (phase : Phase α) (other lock : Nat) :
    (session.setPhase id phase).Awaits other lock ↔
      if other = id then phase.awaited? = some lock else session.Awaits other lock := by
  unfold Awaits
  rw [phase?_setPhase]
  split <;> simp [come]

/-- Setting how far one call has come takes it out of the count that it was in, and puts it into the
one in which it is now. -/
theorem users_setPhase {session : Session τ α} {id : Nat} {call : Call τ α} {old : Phase α}
    (made : session.call? id = some call) (come : session.phase? id = some old)
    (phase : Phase α) (key : String) :
    (session.setPhase id phase).users key +
        (if call.key = key ∧ old.lock?.isSome then 1 else 0) =
      session.users key + if call.key = key ∧ phase.lock?.isSome then 1 else 0 := by
  have found := calls_of_call?_phase? made come
  obtain ⟨inRange, here⟩ := List.getElem?_eq_some_iff.1 found
  have written : (session.setPhase id phase).calls = session.calls.set id ⟨call, phase⟩ := by
    apply List.ext_getElem?
    intro other
    rw [setPhase, List.getElem?_modify, List.getElem?_set]
    by_cases same : id = other
    · subst same
      simp [here, inRange]
    · simp [same]
  have counted := List.boole_getElem_le_countP inRange
    (p := fun running : Running τ α => running.call.key = key && running.phase.lock?.isSome)
  rw [users, written, List.countP_set inRange, users]
  simp only [here, Bool.and_eq_true, decide_eq_true_eq] at counted ⊢
  omega

theorem users_pos {session : Session τ α} {key : String} {id lock : Nat}
    (inside : session.Inside key id lock) : 0 < session.users key := by
  obtain ⟨⟨call, made, rfl⟩, held | awaited⟩ := inside
  · obtain ⟨phase, come, holds⟩ := Option.bind_eq_some_iff.1 held
    refine List.countP_pos_iff.2 ⟨_, List.mem_of_getElem? (calls_of_call?_phase? made come), ?_⟩
    simp [Phase.lock?, holds]
  · obtain ⟨phase, come, waits⟩ := Option.bind_eq_some_iff.1 awaited
    refine List.countP_pos_iff.2 ⟨_, List.mem_of_getElem? (calls_of_call?_phase? made come), ?_⟩
    simp [Phase.lock?, waits]

@[simp] theorem phase?_setMutex (session : Session τ α) (lock id : Nat) (mutex : Mutex) :
    (session.setMutex lock mutex).phase? id = session.phase? id := rfl

@[simp] theorem mutex_setPhase (session : Session τ α) (lock id : Nat) (phase : Phase α) :
    (session.setPhase id phase).mutex lock = session.mutex lock := rfl

theorem mutex_setMutex (session : Session τ α) (lock other : Nat) (mutex : Mutex) :
    (session.setMutex lock mutex).mutex other =
      if other = lock then mutex else session.mutex other := by
  simp only [Session.mutex, setMutex, Table.find?_insert]
  split <;> rfl

/-! What a call does when it leaves its lock, with and without others who wait for it. -/

theorem leave_of_queue_eq_nil {session : Session τ α} {lock : Nat}
    (alone : (session.mutex lock).queue = []) (id : Nat) (key : String)
    (result : Except Failure (Option α)) :
    session.leave id lock key result =
      ({ (session.setPhase id (.finished result)).setMutex lock ⟨none, []⟩ with
          cache := session.cache.release key }, none) := by
  simp only [leave, handOn, mutex_setPhase, alone]
  rfl

theorem leave_of_queue_eq_cons {session : Session τ α} {lock waiting : Nat} {rest : List Nat}
    (waits : (session.mutex lock).queue = waiting :: rest) (id : Nat) (key : String)
    (result : Except Failure (Option α)) :
    session.leave id lock key result =
      ({ ((session.setPhase id (.finished result)).setMutex lock ⟨some waiting, rest⟩).setPhase
            waiting (.woken lock) with
          cache := session.cache.release key }, some waiting) := by
  simp only [leave, handOn, mutex_setPhase, waits]
  rfl

@[simp] theorem leave_fetches (session : Session τ α) (id lock : Nat) (key : String)
    (result : Except Failure (Option α)) :
    (session.leave id lock key result).1.fetches = session.fetches := by
  cases waits : (session.mutex lock).queue with
  | nil =>
    rw [leave_of_queue_eq_nil waits]
    rfl
  | cons waiting rest =>
    rw [leave_of_queue_eq_cons waits]
    rfl

/-- The call that can go on when a lock is left is the first in its queue. -/
theorem leave_ready (session : Session τ α) (id lock : Nat) (key : String)
    (result : Except Failure (Option α)) :
    (session.leave id lock key result).2 = (session.mutex lock).queue.head? := by
  cases waits : (session.mutex lock).queue with
  | nil => rw [leave_of_queue_eq_nil waits, List.head?_nil]
  | cons waiting rest => rw [leave_of_queue_eq_cons waits, List.head?_cons]

@[simp] theorem leave_now (session : Session τ α) (id lock : Nat) (key : String)
    (result : Except Failure (Option α)) :
    (session.leave id lock key result).1.now = session.now := by
  cases waits : (session.mutex lock).queue with
  | nil =>
    rw [leave_of_queue_eq_nil waits]
    rfl
  | cons waiting rest =>
    rw [leave_of_queue_eq_cons waits]
    rfl

@[simp] theorem leave_cache (session : Session τ α) (id lock : Nat) (key : String)
    (result : Except Failure (Option α)) :
    (session.leave id lock key result).1.cache = session.cache.release key := by
  cases waits : (session.mutex lock).queue with
  | nil => rw [leave_of_queue_eq_nil waits]
  | cons waiting rest => rw [leave_of_queue_eq_cons waits]

/-- The call that leaves is over, and the one that is handed the lock can go on. -/
theorem phase?_leave (session : Session τ α) (id lock other : Nat) (key : String)
    (result : Except Failure (Option α)) :
    (session.leave id lock key result).1.phase? other =
      if (session.mutex lock).queue.head? = some other then
        ((session.setPhase id (.finished result)).phase? other).map fun _ => .woken lock
      else (session.setPhase id (.finished result)).phase? other := by
  cases waits : (session.mutex lock).queue with
  | nil =>
    rw [leave_of_queue_eq_nil waits]
    rfl
  | cons waiting rest =>
    rw [leave_of_queue_eq_cons waits]
    refine (phase?_setPhase _ waiting other _).trans ?_
    by_cases same : other = waiting
    · simp [same]
    · have differ : ¬ waiting = other := fun equal => same equal.symm
      simp [same, differ]

@[simp] theorem call?_leave (session : Session τ α) (id lock other : Nat) (key : String)
    (result : Except Failure (Option α)) :
    (session.leave id lock key result).1.call? other = session.call? other := by
  cases waits : (session.mutex lock).queue with
  | nil =>
    rw [leave_of_queue_eq_nil waits]
    exact call?_setPhase session id other _
  | cons waiting rest =>
    rw [leave_of_queue_eq_cons waits]
    exact (call?_setPhase _ waiting other _).trans (call?_setPhase session id other _)

/-- Nothing is kept of a lock's holder; the first in its queue comes next. -/
theorem mutex_leave (session : Session τ α) (id lock other : Nat) (key : String)
    (result : Except Failure (Option α)) :
    (session.leave id lock key result).1.mutex other =
      if other = lock then ⟨(session.mutex lock).queue.head?, (session.mutex lock).queue.tail⟩
      else session.mutex other := by
  cases waits : (session.mutex lock).queue with
  | nil =>
    rw [leave_of_queue_eq_nil waits]
    exact mutex_setMutex _ lock other _
  | cons waiting rest =>
    rw [leave_of_queue_eq_cons waits]
    exact mutex_setMutex _ lock other _

theorem mem_calls_of_phase? {session : Session τ α} {id : Nat} {phase : Phase α}
    (come : session.phase? id = some phase) : ∃ call, session.call? id = some call := by
  obtain ⟨running, found, -⟩ := Option.map_eq_some_iff.1 come
  exact ⟨running.call, by rw [call?, found, Option.map_some]⟩

/-! What is said of calls depends on nothing else in the session. -/

theorem call?_congr {session other : Session τ α} (calls : session.calls = other.calls)
    (id : Nat) : session.call? id = other.call? id := by
  rw [call?, call?, calls]

theorem holds_congr {session other : Session τ α} (calls : session.calls = other.calls)
    (id lock : Nat) : session.Holds id lock ↔ other.Holds id lock := by
  rw [Holds, Holds, phase?, phase?, calls]

theorem awaits_congr {session other : Session τ α} (calls : session.calls = other.calls)
    (id lock : Nat) : session.Awaits id lock ↔ other.Awaits id lock := by
  rw [Awaits, Awaits, phase?, phase?, calls]

theorem users_congr {session other : Session τ α} (calls : session.calls = other.calls)
    (key : String) : session.users key = other.users key := by
  rw [users, users, calls]

/-! ## Events -/

section Stretches

variable [LE τ] [DecidableLE τ] [Clock τ]

/-- A call that is made is resumed by one stretch. -/
theorem resume_eq {session : Session τ α} {id : Nat} {running : Running τ α}
    (here : session.calls[id]? = some running) :
    session.resume id = (session.stretch id running).left id running.call.key := by
  simp only [resume, here]
  cases session.stretch id running <;> rfl

theorem resume_of_absent {session : Session τ α} {id : Nat} (absent : session.calls[id]? = none) :
    session.resume id = (session, none) := by
  simp only [resume, absent]

end Stretches

/-- What can happen to a session. -/
inductive Event (τ : Type)
  /-- A call goes on. -/
  | resume (id : Nat)
  /-- Time passes. -/
  | wait (time : τ)
  /-- The pages of the leaderboard are removed from the cache. -/
  | invalidate

variable [LE τ] [DecidableLE τ] [Clock τ]

/-- The session after an event. A clock that cannot show the later moment stays as it is. -/
def step (session : Session τ α) : Event τ → Session τ α
  | .resume id => (session.resume id).1
  | .wait time =>
    match Clock.later session.now time with
    | .ok later => { session with now := later }
    | .error _ => session
  | .invalidate => { session with cache := session.cache.invalidateLeaderboard.2 }

def after (session : Session τ α) (events : List (Event τ)) : Session τ α :=
  events.foldl step session

@[simp] theorem after_nil (session : Session τ α) : session.after [] = session := rfl

@[simp] theorem after_cons (session : Session τ α) (event : Event τ) (events : List (Event τ)) :
    session.after (event :: events) = (session.step event).after events := rfl

theorem after_append (session : Session τ α) (first second : List (Event τ)) :
    session.after (first ++ second) = (session.after first).after second := by
  simp [after, List.foldl_append]

/-- What every event keeps, an interleaving keeps. -/
theorem after_induction {Kept : Session τ α → Prop} {session : Session τ α}
    (first : Kept session) (next : ∀ session event, Kept session → Kept (session.step event))
    (events : List (Event τ)) : Kept (session.after events) := by
  induction events generalizing session with
  | nil => exact first
  | cons event events ih => exact ih (next session event first)

end Session

end ArenaStandings
