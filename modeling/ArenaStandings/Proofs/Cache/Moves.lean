import ArenaStandings.Proofs.Cache.Entries
import ArenaStandings.Proofs.Cache.Interleaving
import Mathlib.Logic.Relation

/-!
# Stretches are made of moves

A stretch of a call is a few small moves (`Session.Move`): the call looks its key up, finds a value,
takes the lock or a place in its queue, begins to fetch, gives way, or ends a fetch that has no
lock. A call that is about to leave its lock has found a value, or has kept what it fetched
(`Session.Ending`). `Session.reached_stretch` takes every stretch apart into these, so that what the
moves and leaving keep, all interleavings keep (`Session.resume_induction`).
-/

namespace ArenaStandings

namespace Phase

variable {α : Type}

/-- Can the call go on? -/
def isAble : Phase α → Bool
  | arriving | woken _ | fetching _ _ => true
  | queued _ | finished _ => false

/-- How often a call can be resumed from here on, if it gives way so often in all. -/
def resumptions (yields : Nat) : Phase α → Nat
  | arriving => yields + 2
  | queued _ | woken _ => yields + 1
  | fetching _ left => left + 1
  | finished _ => 0

end Phase

namespace Session

variable {τ α : Type}

/-- The lock that a call of the key shares with the others. -/
def lockOf (session : Session τ α) (key : String) : Nat := (session.cache.acquire key).1

/-- A call has joined the callers of the key. -/
def joined (session : Session τ α) (id : Nat) (key : String) (phase : Phase α) (mutex : Mutex) :
    Session τ α :=
  ({ session with cache := (session.cache.acquire key).2 }.setMutex (session.lockOf key)
    mutex).setPhase id phase

theorem mutex_joined (session : Session τ α) (id : Nat) (key : String) (phase : Phase α)
    (mutex : Mutex) (other : Nat) :
    (session.joined id key phase mutex).mutex other =
      if other = session.lockOf key then mutex else session.mutex other :=
  mutex_setMutex ..

/-- A call has begun to fetch. -/
def begun (session : Session τ α) (id : Nat) (phase : Phase α) : Session τ α :=
  { session with fetches := session.fetches ++ [id] }.setPhase id phase

variable [LE τ] [DecidableLE τ]

/-- What is found under a key. -/
def found? (session : Session τ α) (key : String) : Option α :=
  (session.cache.get session.now key).1

/-- The key has been looked up. -/
def look (session : Session τ α) (key : String) : Session τ α :=
  { session with cache := (session.cache.get session.now key).2 }

@[simp] theorem found?_look (session : Session τ α) (key other : String) :
    (session.look key).found? other = session.found? other :=
  Cache.found_get ..

/-- Leaving a lock does not show in what is found. -/
@[simp] theorem found?_leave (session : Session τ α) (id lock : Nat) (own key : String)
    (result : Except Failure (Option α)) :
    (session.leave id lock own result).1.found? key = session.found? key := by
  rw [found?, found?, leave_cache, leave_now, Cache.found_release]

variable [Clock τ]

/-- What keeping the outcome of a call's fetch comes to. -/
def written (session : Session τ α) (call : Call τ α) : Written τ α :=
  session.cache.settle (call.fetch.run session.now).1 call.key (call.fetch.run session.now).2
    call.ttl

/-- The fetch of a call is over, and what it came to has been kept. -/
def settled (session : Session τ α) (call : Call τ α) : Session τ α :=
  { session with now := (call.fetch.run session.now).1, cache := (session.written call).cache }

/-- The moves of a call inside a stretch. -/
inductive Move (id : Nat) (call : Call τ α) (session : Session τ α) : Session τ α → Prop
  | look : Move id call session (session.look call.key)
  | find {value : α} (come : session.phase? id = some .arriving)
      (found : session.found? call.key = some value) :
    Move id call session (session.setPhase id (.finished (.ok (some value))))
  | take (come : session.phase? id = some .arriving)
      (free : session.mutex (session.lockOf call.key) = ⟨none, []⟩) :
    Move id call session
      (session.joined id call.key (.woken (session.lockOf call.key)) ⟨some id, []⟩)
  | wait {holder : Option Nat} {queue : List Nat} (come : session.phase? id = some .arriving)
      (locked : session.mutex (session.lockOf call.key) = ⟨holder, queue⟩)
      (busy : holder = none → queue ≠ []) :
    Move id call session
      (session.joined id call.key (.queued (session.lockOf call.key)) ⟨holder, queue ++ [id]⟩)
  | begin {lock : Nat} (come : session.phase? id = some (.woken lock))
      (missed : session.found? call.key = none) :
    Move id call session (session.begun id (.fetching (some lock) (call.yields - 1)))
  /-- A cache that is switched off gives no locks. -/
  | beginUnlocked (come : session.phase? id = some .arriving)
      (off : session.cache.enabled = false) :
    Move id call session (session.begun id (.fetching none (call.yields - 1)))
  | giveWay {lock : Option Nat} {yields : Nat}
      (come : session.phase? id = some (.fetching lock (yields + 1))) :
    Move id call session (session.setPhase id (.fetching lock yields))
  | finish (come : session.phase? id = some (.fetching none 0)) :
    Move id call session ({ session with now := (call.fetch.run session.now).1 }.setPhase id
      (.finished (call.fetch.run session.now).2))

/-- Moves of a call, one after the other. -/
abbrev Moves (id : Nat) (call : Call τ α) : Session τ α → Session τ α → Prop :=
  Relation.ReflTransGen (Move id call)

/-- A call comes to a result and is about to leave its lock: it has found a value, or the outcome of
its fetch has been kept. -/
inductive Ending (id : Nat) (call : Call τ α) (session : Session τ α) :
    Session τ α → Nat → Except Failure (Option α) → Prop
  | found {lock : Nat} {value : α} (come : session.phase? id = some (.woken lock))
      (found : session.found? call.key = some value) :
    Ending id call session session lock (.ok (some value))
  | fetched {lock : Nat} (come : session.phase? id = some (.fetching (some lock) 0)) :
    Ending id call session (session.settled call) lock
      ((session.written call).result.bind fun _ => (call.fetch.run session.now).2)

end Session

/-- A stretch of a call is made of moves, and perhaps of an ending. A call that pauses can be
resumed fewer times than before, and is the one to go on if it can. -/
def Stretch.Reached {τ α : Type} [LE τ] [DecidableLE τ] [Clock τ] (session : Session τ α)
    (id : Nat) (call : Call τ α) (bound : Nat) : Stretch τ α → Prop
  | .paused next ready => Session.Moves id call session next ∧
    ∃ phase, next.phase? id = some phase ∧ ready = (if phase.isAble then some id else none) ∧
      phase ≠ .arriving ∧ phase.resumptions call.yields < bound
  | .leaving next lock result =>
    ∃ last, Session.Moves id call session last ∧ Session.Ending id call last next lock result

theorem Stretch.Reached.mono {τ α : Type} [LE τ] [DecidableLE τ] [Clock τ]
    {session : Session τ α} {id : Nat} {call : Call τ α} {bound more : Nat}
    {stretch : Stretch τ α} (reached : stretch.Reached session id call bound)
    (least : bound ≤ more) : stretch.Reached session id call more := by
  cases stretch with
  | paused next ready =>
    obtain ⟨moves, phase, come, again, gone, fewer⟩ := reached
    exact ⟨moves, phase, come, again, gone, by omega⟩
  | leaving next lock result => exact reached

namespace Session

variable {τ α : Type} [LE τ] [DecidableLE τ] [Clock τ] {session : Session τ α} {id : Nat}
  {call : Call τ α}

/-- A move may come before a stretch. -/
theorem Move.reached {middle : Session τ α} (move : Move id call session middle) {bound : Nat}
    {stretch : Stretch τ α} (reached : stretch.Reached middle id call bound) {more : Nat}
    (least : bound ≤ more) : stretch.Reached session id call more := by
  cases stretch with
  | paused next ready =>
    obtain ⟨moves, phase, come, again, gone, fewer⟩ := reached
    exact ⟨.head move moves, phase, come, again, gone, by omega⟩
  | leaving next lock result =>
    obtain ⟨last, moves, ending⟩ := reached
    exact ⟨last, .head move moves, ending⟩

theorem reached_complete {lock : Option Nat}
    (come : session.phase? id = some (.fetching lock 0)) :
    (session.complete id call lock).Reached session id call 1 := by
  cases lock with
  | none =>
    exact ⟨.single (.finish come), _, phase?_setPhase_self come _, rfl, (by simp),
      Nat.zero_lt_one⟩
  | some lock => exact ⟨session, .refl, .fetched come⟩

theorem beginFetch_eq (session : Session τ α) (id : Nat) (call : Call τ α) (lock : Option Nat) :
    session.beginFetch id call lock =
      match call.yields with
      | 0 => (session.begun id (.fetching lock (call.yields - 1))).complete id call lock
      | _ + 1 => .paused (session.begun id (.fetching lock (call.yields - 1))) (some id) := rfl

theorem reached_beginFetch {old : Phase α} (come : session.phase? id = some old)
    {lock : Option Nat}
    (begins : Move id call session (session.begun id (.fetching lock (call.yields - 1)))) :
    (session.beginFetch id call lock).Reached session id call (call.yields + 1) := by
  have begun : (session.begun id (.fetching lock (call.yields - 1))).phase? id =
      some (.fetching lock (call.yields - 1)) := phase?_setPhase_self come _
  rw [beginFetch_eq]
  cases yields : call.yields with
  | zero =>
    rw [yields] at begins begun
    exact begins.reached (reached_complete begun) (Nat.le_refl _)
  | succ left =>
    rw [yields] at begins begun
    exact ⟨.single begins, _, begun, rfl, (by simp), by rw [Phase.resumptions]; omega⟩

theorem reached_enter {lock : Nat} (come : session.phase? id = some (.woken lock)) :
    (session.enter id call lock).Reached session id call (call.yields + 1) := by
  have looks : Move id call session (session.look call.key) := .look
  have same : (session.look call.key).phase? id = some (.woken lock) := come
  have kept : (session.look call.key).found? call.key = session.found? call.key := found?_look ..
  unfold enter
  split
  · rename_i value seen found
    have looked : session.look call.key = { session with cache := seen } := by
      rw [Session.look, found]
    rw [← looked]
    refine looks.reached ?_ (Nat.le_refl _)
    exact ⟨_, .refl, .found same (kept.trans (congrArg Prod.fst found))⟩
  · rename_i seen found
    have looked : session.look call.key = { session with cache := seen } := by
      rw [Session.look, found]
    rw [← looked]
    refine looks.reached (reached_beginFetch same ?_) (Nat.le_refl _)
    exact .begin same (kept.trans (congrArg Prod.fst found))

theorem join_eq (session : Session τ α) (id : Nat) (call : Call τ α) :
    session.join id call =
      match session.mutex (session.lockOf call.key) with
      | ⟨none, []⟩ => (session.joined id call.key (.woken (session.lockOf call.key))
          ⟨some id, []⟩).enter id call (session.lockOf call.key)
      | ⟨holder, queue⟩ =>
        .paused (session.joined id call.key (.queued (session.lockOf call.key))
          ⟨holder, queue ++ [id]⟩) none := rfl

theorem reached_join (come : session.phase? id = some .arriving) :
    (session.join id call).Reached session id call (call.yields + 2) := by
  rw [join_eq]
  split
  · rename_i free
    have take : Move id call session _ := .take come free
    exact take.reached (reached_enter (phase?_setPhase_self come _)) (by omega)
  · rename_i holder queue busy locked
    have wait : Move id call session _ := .wait come locked busy
    exact ⟨.single wait, _, phase?_setPhase_self come _, rfl, (by simp), Nat.lt_succ_self _⟩

theorem reached_arrive (come : session.phase? id = some .arriving) :
    (session.arrive id call).Reached session id call (call.yields + 2) := by
  unfold arrive
  split
  · rename_i off
    exact (reached_beginFetch come (.beginUnlocked come (by simpa using off))).mono (by omega)
  · have looks : Move id call session (session.look call.key) := .look
    have same : (session.look call.key).phase? id = some .arriving := come
    split
    · rename_i value seen found
      have looked : session.look call.key = { session with cache := seen } := by
        rw [Session.look, found]
      rw [← looked]
      refine ⟨.head looks (.single (.find same ?_)), _, phase?_setPhase_self same _, rfl,
        (by simp), Nat.succ_pos _⟩
      exact (found?_look ..).trans (congrArg Prod.fst found)
    · rename_i seen found
      have looked : session.look call.key = { session with cache := seen } := by
        rw [Session.look, found]
      rw [← looked]
      exact looks.reached (reached_join same) (Nat.le_refl _)

/-- Every stretch of a call that can go on is made of moves, and perhaps of an ending. -/
theorem reached_stretch {running : Running τ α} (here : session.calls[id]? = some running)
    (able : running.phase.isAble = true) :
    (session.stretch id running).Reached session id running.call
      (running.phase.resumptions running.call.yields) := by
  have come : session.phase? id = some running.phase := by rw [phase?, here, Option.map_some]
  unfold stretch
  split <;> rename_i reached <;> rw [reached] at come able ⊢
  · exact reached_arrive come
  · cases able
  · exact reached_enter come
  · exact reached_complete come
  · exact ⟨.single (.giveWay come), _, phase?_setPhase_self come _, rfl, (by simp),
      Nat.lt_succ_self _⟩
  · cases able

/-- A call that cannot go on stays as it is. -/
theorem stretch_of_stuck {running : Running τ α} (stuck : running.phase.isAble = false) :
    session.stretch id running = .paused session none := by
  unfold stretch
  split <;> rename_i reached <;> rw [reached] at stuck <;> first | rfl | cases stuck

/-! ## What moves keep -/

@[simp] theorem Move.call? {next : Session τ α} (move : Move id call session next) (other : Nat) :
    next.call? other = session.call? other := by
  cases move with
  | look => rfl
  | find | giveWay => exact call?_setPhase ..
  | take | wait | begin | beginUnlocked | finish => exact call?_setPhase ..

/-- A move leaves the other calls where they are. -/
theorem Move.phase?_of_ne {next : Session τ α} (move : Move id call session next) {other : Nat}
    (differ : other ≠ id) : next.phase? other = session.phase? other := by
  cases move with
  | look => rfl
  | find | giveWay => exact phase?_setPhase_of_ne differ ..
  | take | wait | begin | beginUnlocked | finish => exact phase?_setPhase_of_ne differ ..

theorem Moves.phase?_of_ne {last : Session τ α} (moves : Moves id call session last) {other : Nat}
    (differ : other ≠ id) : last.phase? other = session.phase? other := by
  induction moves with
  | refl => rfl
  | tail _ move ih => exact (move.phase?_of_ne differ).trans ih

theorem Ending.phase? {next : Session τ α} {lock : Nat} {result : Except Failure (Option α)}
    (ends : Ending id call session next lock result) (other : Nat) :
    next.phase? other = session.phase? other := by
  cases ends <;> rfl

theorem Ending.call? {next : Session τ α} {lock : Nat} {result : Except Failure (Option α)}
    (ends : Ending id call session next lock result) (other : Nat) :
    next.call? other = session.call? other := by
  cases ends <;> rfl

theorem Ending.fetches {next : Session τ α} {lock : Nat} {result : Except Failure (Option α)}
    (ends : Ending id call session next lock result) : next.fetches = session.fetches := by
  cases ends <;> rfl

/-- A move does not touch the switch of the cache, nor how long values are kept by default. -/
theorem Move.cache_settings {next : Session τ α} (move : Move id call session next) :
    next.cache.enabled = session.cache.enabled ∧
      next.cache.defaultTtl = session.cache.defaultTtl := by
  cases move with
  | look => exact ⟨Cache.get_enabled .., Cache.get_defaultTtl ..⟩
  | take | wait => exact ⟨Cache.acquire_enabled .., Cache.acquire_defaultTtl ..⟩
  | find | begin | beginUnlocked | giveWay | finish => exact ⟨rfl, rfl⟩

/-- A move adds no entry. -/
theorem Move.find?_of_find? {next : Session τ α} (move : Move id call session next) {key : String}
    {entry : Entry τ α} (present : next.cache.entries.find? key = some entry) :
    session.cache.entries.find? key = some entry := by
  cases move with
  | look => exact Cache.find?_of_find?_get present
  | take | wait => exact Cache.acquire_entries session.cache call.key ▸ present
  | find | begin | beginUnlocked | giveWay | finish => exact present

/-- A move takes no entry away but one that is expired. -/
theorem Move.find?_eq_or_expired {next : Session τ α} (move : Move id call session next)
    (key : String) : next.cache.entries.find? key = session.cache.entries.find? key ∨
      (session.cache.entries.find? key).all fun entry => entry.isExpired session.now := by
  cases move with
  | look => exact (session.cache.find?_get session.now call.key key).imp_right (·.2.2)
  | take | wait => exact .inl (by rw [← Cache.acquire_entries session.cache call.key]; rfl)
  | find | begin | beginUnlocked | giveWay | finish => exact .inl rfl

theorem Moves.induction {Kept : Session τ α → Prop} {last : Session τ α}
    (moves : Moves id call session last) (made : session.call? id = some call)
    (first : Kept session)
    (move : ∀ {session next}, session.call? id = some call → Move id call session next →
      Kept session → Kept next) : last.call? id = some call ∧ Kept last := by
  induction moves with
  | refl => exact ⟨made, first⟩
  | tail _ step ih => exact ⟨(step.call? id).trans ih.1, move ih.1 step ih.2⟩

/-- A call that goes on makes moves, and perhaps comes to a result and leaves its lock. -/
theorem resume_cases (session : Session τ α) (id : Nat) :
    (session.resume id).1 = session ∨
      ∃ call, session.call? id = some call ∧
        (Moves id call session (session.resume id).1 ∨
          ∃ last next lock result, Moves id call session last ∧
            Ending id call last next lock result ∧
            (session.resume id).1 = (next.leave id lock call.key result).1) := by
  cases here : session.calls[id]? with
  | none => exact .inl (by rw [resume_of_absent here])
  | some running =>
    have made : session.call? id = some running.call := by rw [Session.call?, here, Option.map_some]
    cases able : running.phase.isAble with
    | false => exact .inl (by rw [resume_eq here, stretch_of_stuck able]; rfl)
    | true =>
      have reached := reached_stretch here able
      rw [resume_eq here]
      cases ended : session.stretch id running with
      | paused next ready =>
        rw [ended] at reached
        exact .inr ⟨running.call, made, .inl reached.1⟩
      | leaving next lock result =>
        rw [ended] at reached
        obtain ⟨last, moves, ending⟩ := reached
        exact .inr ⟨running.call, made, .inr ⟨last, next, lock, result, moves, ending, rfl⟩⟩

/-- **Resumptions.** What every move of a call keeps, and what is kept when the call leaves its
lock, resuming the call keeps. -/
theorem resume_induction {Kept : Session τ α → Prop} (first : Kept session) (id : Nat)
    (move : ∀ {session next call}, session.call? id = some call → Move id call session next →
      Kept session → Kept next)
    (leave : ∀ {session next call lock result}, session.call? id = some call →
      Ending id call session next lock result → Kept session →
        Kept (next.leave id lock call.key result).1) :
    Kept (session.resume id).1 := by
  rcases session.resume_cases id with
    same | ⟨call, made, moves | ⟨last, next, lock, result, moves, ending, left⟩⟩
  · rw [same]
    exact first
  · exact (Moves.induction moves made first move).2
  · obtain ⟨made', kept⟩ := Moves.induction moves made first move
    rw [left]
    exact leave made' ending kept

theorem call?_step (session : Session τ α) (event : Event τ) (id : Nat) :
    (session.step event).call? id = session.call? id := by
  cases event with
  | resume other =>
    refine @resume_induction _ _ _ _ _ session (fun next => next.call? id = session.call? id) rfl
      other (fun _ move same => ?_) fun _ ends same => ?_
    · rw [move.call?, same]
    · rw [call?_leave, ends.call?, same]
  | wait time =>
    unfold step
    dsimp only
    split <;> rfl
  | invalidate => rfl

theorem call?_after (session : Session τ α) (events : List (Event τ)) (id : Nat) :
    (session.after events).call? id = session.call? id := by
  induction events generalizing session with
  | nil => rfl
  | cons event events ih => rw [after_cons, ih, call?_step]

end Session

end ArenaStandings
