import ArenaStandings.Proofs.Cache.Frame
import ArenaStandings.Proofs.Cache.Moves

/-!
# The table of locks

While calls come and go, a slot has to stand for the calls that are inside: it is there as long as
any is, it counts them, and all of them share its lock. `Session.Consistent` says this together with
what a lock knows about its holder and its queue, and every event keeps it
(`Session.Consistent.step`).
-/

namespace ArenaStandings

namespace Session

variable {τ α : Type}

/-- The slots and the locks agree with how far the calls have come. -/
structure Agreeing (session : Session τ α) : Prop where
  /-- A slot counts the calls inside; where there is no slot there are none. -/
  users_eq : ∀ key, (session.cache.slots.find? key).elim 0 Slot.users = session.users key
  users_pos : ∀ {key slot}, session.cache.slots.find? key = some slot → 0 < slot.users
  /-- The calls of a key that are inside share the lock in its slot. -/
  shared : ∀ {key id lock}, session.Inside key id lock →
    ∃ slot, session.cache.slots.find? key = some slot ∧ slot.lock = lock
  distinct : ∀ {key other slot slot'}, session.cache.slots.find? key = some slot →
    session.cache.slots.find? other = some slot' → slot.lock = slot'.lock → key = other
  issued : ∀ {key slot}, session.cache.slots.find? key = some slot →
    slot.lock < session.cache.nextLock
  holder_iff : ∀ lock id, (session.mutex lock).holder = some id ↔ session.Holds id lock
  mem_queue_iff : ∀ lock id, id ∈ (session.mutex lock).queue ↔ session.Awaits id lock
  queue_nodup : ∀ lock, (session.mutex lock).queue.Nodup

/-- Besides, nobody waits for a lock that nobody holds, and nobody fetches without a lock from a
cache that is switched on. -/
structure Consistent (session : Session τ α) : Prop extends session.Agreeing where
  queue_eq_nil : ∀ lock, (session.mutex lock).holder = none → (session.mutex lock).queue = []
  locked : session.cache.enabled = true → ∀ id yields,
    session.phase? id ≠ some (.fetching none yields)

variable {session : Session τ α}

/-- Only what a call holds and awaits counts, not how far it has come apart from that. -/
theorem Agreeing.congr (agreeing : session.Agreeing) {other : Session τ α}
    (calls : ∀ id, other.call? id = session.call? id)
    (holds : ∀ id lock, other.Holds id lock ↔ session.Holds id lock)
    (awaits : ∀ id lock, other.Awaits id lock ↔ session.Awaits id lock)
    (users : ∀ key, other.users key = session.users key)
    (mutexes : ∀ lock, other.mutex lock = session.mutex lock)
    (slots : other.cache.slots = session.cache.slots)
    (nextLock : other.cache.nextLock = session.cache.nextLock) : other.Agreeing where
  users_eq := fun key => by rw [slots, users, agreeing.users_eq]
  users_pos := fun found => agreeing.users_pos (slots ▸ found)
  shared := fun inside => by
    rw [slots]
    simp only [Inside, calls, holds, awaits] at inside
    exact agreeing.shared inside
  distinct := fun found found' => agreeing.distinct (slots ▸ found) (slots ▸ found')
  issued := fun found => by
    rw [nextLock]
    exact agreeing.issued (slots ▸ found)
  holder_iff := fun lock id => by rw [mutexes, holds, agreeing.holder_iff]
  mem_queue_iff := fun lock id => by rw [mutexes, awaits, agreeing.mem_queue_iff]
  queue_nodup := fun lock => by
    rw [mutexes]
    exact agreeing.queue_nodup lock

/-- One call goes on: it had, at most, this lock, and comes so far that it has, at most, this lock.
The lock knows, the slot of the key counts again, and no other key has the lock. -/
structure Shift (session : Session τ α) (id : Nat) (call : Call τ α) (old phase : Phase α)
    (lock : Nat) (mutex : Mutex) (slot? : Option Slot) (next : Session τ α) : Prop where
  made : session.call? id = some call
  come : session.phase? id = some old
  had : ∀ other, old.held? = some other ∨ old.awaited? = some other → other = lock
  has : ∀ other, phase.held? = some other ∨ phase.awaited? = some other → other = lock
  holder : ∀ other, mutex.holder = some other ↔
    if other = id then phase.held? = some lock else session.Holds other lock
  queue : ∀ other, other ∈ mutex.queue ↔
    if other = id then phase.awaited? = some lock else session.Awaits other lock
  nodup : mutex.queue.Nodup
  count : slot?.elim 0 Slot.users + (if old.lock?.isSome then 1 else 0) =
    (session.cache.slots.find? call.key).elim 0 Slot.users + if phase.lock?.isSome then 1 else 0
  used : ∀ slot ∈ slot?, 0 < slot.users ∧ slot.lock = lock
  owned : ∀ key slot, session.cache.slots.find? key = some slot →
    (slot.lock = lock ↔ key = call.key)
  calls : next.calls = (session.setPhase id phase).calls
  mutexes : ∀ other, next.mutex other = if other = lock then mutex else session.mutex other
  slots : ∀ key, next.cache.slots.find? key =
    if key = call.key then slot? else session.cache.slots.find? key
  issued : slot?.isSome → lock < next.cache.nextLock
  nextLock : session.cache.nextLock ≤ next.cache.nextLock

namespace Shift

variable {id : Nat} {call : Call τ α} {old phase : Phase α} {lock : Nat} {mutex : Mutex}
  {slot? : Option Slot} {next : Session τ α}
  (shift : Shift session id call old phase lock mutex slot? next)
include shift

theorem holds_iff (other lock' : Nat) : next.Holds other lock' ↔
    if other = id then phase.held? = some lock' else session.Holds other lock' := by
  rw [holds_congr shift.calls, holds_setPhase shift.come]

theorem awaits_iff (other lock' : Nat) : next.Awaits other lock' ↔
    if other = id then phase.awaited? = some lock' else session.Awaits other lock' := by
  rw [awaits_congr shift.calls, awaits_setPhase shift.come]

/-- The call had no other lock. -/
theorem outside {other : Nat} (differ : other ≠ lock) :
    ¬ session.Holds id other ∧ ¬ session.Awaits id other := by
  simp only [Holds, Awaits, shift.come, Option.bind_some]
  exact ⟨fun held => differ (shift.had other (.inl held)),
    fun awaited => differ (shift.had other (.inr awaited))⟩

variable (agreeing : session.Agreeing)
include agreeing

theorem users_eq (key : String) :
    (next.cache.slots.find? key).elim 0 Slot.users = next.users key := by
  have recount := users_setPhase shift.made shift.come phase key
  rw [shift.slots, users_congr shift.calls]
  by_cases same : key = call.key
  · have count := shift.count
    subst same
    rw [if_pos rfl]
    rw [agreeing.users_eq] at count
    simp only [true_and] at recount
    omega
  · have differ : ¬ call.key = key := fun equal => same equal.symm
    simpa [same, differ, agreeing.users_eq] using recount.symm

theorem shared {key : String} {other lock' : Nat} (inside : next.Inside key other lock') :
    ∃ slot, next.cache.slots.find? key = some slot ∧ slot.lock = lock' := by
  have counted := Session.users_pos inside
  rw [← shift.users_eq agreeing key] at counted
  obtain ⟨⟨made, again, rfl⟩, station⟩ := inside
  rw [call?_congr shift.calls, call?_setPhase] at again
  rw [shift.holds_iff, shift.awaits_iff] at station
  rw [shift.slots] at counted ⊢
  by_cases own : made.key = call.key
  · rw [if_pos own] at counted ⊢
    cases remains : slot? with
    | none =>
      rw [remains] at counted
      cases counted
    | some slot =>
      refine ⟨slot, rfl, (shift.used slot remains).2.trans ?_⟩
      by_cases same : other = id
      · rw [if_pos same, if_pos same] at station
        exact (shift.has lock' station).symm
      · rw [if_neg same, if_neg same] at station
        obtain ⟨slot, found, rfl⟩ := agreeing.shared ⟨⟨made, again, rfl⟩, station⟩
        exact ((shift.owned _ slot found).2 own).symm
  · rw [if_neg own]
    have same : other ≠ id := by
      rintro rfl
      cases shift.made.symm.trans again
      exact own rfl
    rw [if_neg same, if_neg same] at station
    exact agreeing.shared ⟨⟨made, again, rfl⟩, station⟩

theorem distinct {key other : String} {slot slot' : Slot}
    (found : next.cache.slots.find? key = some slot)
    (found' : next.cache.slots.find? other = some slot') (same : slot.lock = slot'.lock) :
    key = other := by
  rw [shift.slots] at found found'
  split at found <;> split at found'
  · simp [*]
  · rename_i own _
    have shares := same ▸ (shift.used slot found).2
    exact own.trans ((shift.owned other slot' found').1 shares).symm
  · rename_i own
    have shares := same.trans (shift.used slot' found').2
    exact ((shift.owned key slot found).1 shares).trans own.symm
  · exact agreeing.distinct found found' same

theorem holder_iff (lock' other : Nat) :
    (next.mutex lock').holder = some other ↔ next.Holds other lock' := by
  rw [shift.mutexes, shift.holds_iff]
  by_cases own : lock' = lock
  · rw [own, if_pos rfl]
    exact shift.holder other
  · rw [if_neg own, agreeing.holder_iff]
    split
    · rename_i same
      rw [same]
      exact iff_of_false (shift.outside own).1 fun held => own (shift.has lock' (.inl held))
    · rfl

theorem mem_queue_iff (lock' other : Nat) :
    other ∈ (next.mutex lock').queue ↔ next.Awaits other lock' := by
  rw [shift.mutexes, shift.awaits_iff]
  by_cases own : lock' = lock
  · rw [own, if_pos rfl]
    exact shift.queue other
  · rw [if_neg own, agreeing.mem_queue_iff]
    split
    · rename_i same
      rw [same]
      exact iff_of_false (shift.outside own).2 fun awaited => own (shift.has lock' (.inr awaited))
    · rfl

end Shift

/-- **One call goes on.** The slots and the locks agree again with how far the calls have come. -/
theorem Agreeing.shift (agreeing : session.Agreeing) {id : Nat} {call : Call τ α}
    {old phase : Phase α} {lock : Nat} {mutex : Mutex} {slot? : Option Slot} {next : Session τ α}
    (shift : Shift session id call old phase lock mutex slot? next) : next.Agreeing where
  users_eq := shift.users_eq agreeing
  users_pos := fun {key slot} found => by
    rw [shift.slots] at found
    split at found
    · exact (shift.used slot found).1
    · exact agreeing.users_pos found
  shared := shift.shared agreeing
  distinct := shift.distinct agreeing
  issued := fun {key slot} found => by
    rw [shift.slots] at found
    split at found
    · rw [(shift.used slot found).2]
      exact shift.issued (by rw [found]; rfl)
    · exact Nat.lt_of_lt_of_le (agreeing.issued found) shift.nextLock
  holder_iff := shift.holder_iff agreeing
  mem_queue_iff := shift.mem_queue_iff agreeing
  queue_nodup := fun lock' => by
    rw [shift.mutexes]
    split
    · exact shift.nodup
    · exact agreeing.queue_nodup lock'

/-- The first call in the queue of a free lock is given the lock. -/
theorem Agreeing.wake (agreeing : session.Agreeing) (lock waiting : Nat) (rest : List Nat)
    (free : session.mutex lock = ⟨none, waiting :: rest⟩) :
    ((session.setMutex lock ⟨some waiting, rest⟩).setPhase waiting (.woken lock)).Agreeing := by
  have awaits : session.Awaits waiting lock :=
    (agreeing.mem_queue_iff lock waiting).1 (free ▸ List.mem_cons_self)
  have come : session.phase? waiting = some (.queued lock) := by
    obtain ⟨old, come, waits⟩ := Option.bind_eq_some_iff.1 awaits
    cases old <;> cases waits
    exact come
  obtain ⟨call, made⟩ := mem_calls_of_phase? come
  obtain ⟨slot, found, shares⟩ := agreeing.shared ⟨⟨call, made, rfl⟩, .inr awaits⟩
  have nodup := free ▸ agreeing.queue_nodup lock
  obtain ⟨fresh, nodup⟩ := List.nodup_cons.1 nodup
  refine agreeing.shift (?_ : Shift session waiting call (.queued lock) (.woken lock) lock
    ⟨some waiting, rest⟩ (session.cache.slots.find? call.key) _)
  refine
    { made := made
      come := come
      had := by simp [Phase.held?, Phase.awaited?, eq_comm]
      has := by simp [Phase.held?, Phase.awaited?, eq_comm]
      holder := fun other => ?_
      queue := fun other => ?_
      nodup := nodup
      count := by simp [Phase.lock?, Phase.held?, Phase.awaited?]
      used := fun slot' remains => ?_
      owned := fun key slot' foundOther => ?_
      calls := rfl
      mutexes := fun other => mutex_setMutex session lock other _
      slots := fun key => ?_
      issued := fun _ => ?_
      nextLock := Nat.le_refl _ }
  · have nobody : ¬ session.Holds other lock := by
      rw [← agreeing.holder_iff, free]
      intro equal
      cases equal
    by_cases same : other = waiting
    · simp [same, Phase.held?]
    · have differ : ¬ waiting = other := fun equal => same equal.symm
      simp [same, differ, nobody]
  · rw [← agreeing.mem_queue_iff, free]
    by_cases same : other = waiting
    · simp [same, fresh, Phase.awaited?]
    · simp [same]
  · cases found.symm.trans remains
    exact ⟨agreeing.users_pos found, shares⟩
  · constructor
    · exact fun same => agreeing.distinct foundOther found (same.trans shares.symm)
    · rintro rfl
      cases found.symm.trans foundOther
      exact shares
  · split
    · rename_i same
      rw [same]
      rfl
    · rfl
  · rw [← shares]
    exact agreeing.issued found

namespace Consistent

/-- A session whose calls are about to begin is consistent if its cache has no slots. -/
theorem start {cache : Cache τ α} (idle : cache.pending = []) (now : τ)
    (calls : List (Call τ α)) : (Session.start cache now calls).Consistent := by
  have vacant : ∀ key, (Session.start cache now calls).cache.slots.find? key = none := by
    intro key
    have nobody : (Session.start cache now calls).cache.slots.keys = [] := idle
    rw [Table.find?_eq_none_iff, nobody]
    exact List.not_mem_nil
  have come : ∀ id phase, (Session.start cache now calls).phase? id = some phase →
      phase = .arriving := by
    intro id phase come
    rw [phase?_start] at come
    obtain ⟨call, -, rfl⟩ := Option.map_eq_some_iff.1 come
    rfl
  have outside : ∀ id lock, ¬ (Session.start cache now calls).Holds id lock ∧
      ¬ (Session.start cache now calls).Awaits id lock := by
    intro id lock
    constructor <;> intro station <;>
      obtain ⟨phase, reached, has⟩ := Option.bind_eq_some_iff.1 station <;>
      cases come id phase reached <;> cases has
  refine
    { users_eq := fun key => ?_
      users_pos := fun found => absurd found (by simp [vacant])
      shared := fun inside => (inside.2.elim (outside _ _).1 (outside _ _).2).elim
      distinct := fun found => absurd found (by simp [vacant])
      issued := fun found => absurd found (by simp [vacant])
      holder_iff := fun lock id => iff_of_false (fun held => by cases held) (outside id lock).1
      mem_queue_iff := fun lock id => iff_of_false List.not_mem_nil (outside id lock).2
      queue_nodup := fun lock => List.nodup_nil
      queue_eq_nil := fun lock _ => rfl
      locked := fun _ id yields reached => by cases come id _ reached }
  rw [vacant, Option.elim_none, users, eq_comm, List.countP_eq_zero]
  intro running member
  obtain ⟨call, -, rfl⟩ := List.mem_map.1 member
  simp [Phase.lock?, Phase.held?, Phase.awaited?]

/-- Entries, clock and the record of fetches have no part in it. -/
theorem congr (consistent : session.Consistent) {other : Session τ α}
    (calls : other.calls = session.calls) (mutexes : other.mutexes = session.mutexes)
    (slots : other.cache.slots = session.cache.slots)
    (nextLock : other.cache.nextLock = session.cache.nextLock)
    (enabled : other.cache.enabled = session.cache.enabled) : other.Consistent := by
  have locks : ∀ lock, other.mutex lock = session.mutex lock := fun lock => by
    rw [mutex, mutex, mutexes]
  refine ⟨consistent.toAgreeing.congr (call?_congr calls) (holds_congr calls) (awaits_congr calls)
    (users_congr calls) locks slots nextLock, ?_, ?_⟩
  · intro lock
    rw [locks]
    exact consistent.queue_eq_nil lock
  · intro on id yields
    rw [phase?, calls]
    exact consistent.locked (enabled ▸ on) id yields

/-- A call that goes on to anything but a fetch without a lock leaves it at that. -/
theorem locked_setPhase (consistent : session.Consistent) {id : Nat} {old : Phase α}
    (come : session.phase? id = some old) (on : session.cache.enabled = true) {phase : Phase α}
    (locked : ∀ yields, phase ≠ .fetching none yields) (other yields : Nat) :
    (session.setPhase id phase).phase? other ≠ some (.fetching none yields) := by
  rw [phase?_setPhase]
  split
  · rw [come, Option.map_some]
    exact fun same => locked yields (Option.some.inj same)
  · exact consistent.locked on other yields

/-- How far a call has come may change as long as it holds and awaits what it held and awaited. -/
theorem setPhase (consistent : session.Consistent) {id : Nat} {call : Call τ α} {old : Phase α}
    (made : session.call? id = some call) (come : session.phase? id = some old) {phase : Phase α}
    (held : phase.held? = old.held?) (awaited : phase.awaited? = old.awaited?)
    (locked : session.cache.enabled = true → ∀ yields, phase ≠ .fetching none yields) :
    (session.setPhase id phase).Consistent := by
  refine ⟨consistent.toAgreeing.congr (fun other => call?_setPhase session id other phase)
    ?_ ?_ ?_ (fun _ => rfl) rfl rfl, consistent.queue_eq_nil,
    fun on => consistent.locked_setPhase come on (locked on)⟩
  · intro other lock
    rw [holds_setPhase come]
    split
    · rename_i same
      rw [same, held, Holds, come, Option.bind_some]
    · rfl
  · intro other lock
    rw [awaits_setPhase come]
    split
    · rename_i same
      rw [same, awaited, Awaits, come, Option.bind_some]
    · rfl
  · intro key
    have count := users_setPhase made come phase key
    rw [Phase.lock?, Phase.lock?, held, awaited] at count
    exact Nat.add_right_cancel count

/-- The lock that a call is given when it joins belongs to its key and to no other. -/
theorem acquire_owned (consistent : session.Consistent) (key other : String) (slot : Slot)
    (found : session.cache.slots.find? other = some slot) :
    slot.lock = (session.cache.acquire key).1 ↔ other = key := by
  rw [Cache.acquire_lock]
  constructor
  · intro same
    cases own : session.cache.slots.find? key with
    | none =>
      rw [own] at same
      exact absurd (consistent.issued found) (by simp [same])
    | some slot' =>
      rw [own] at same
      exact consistent.distinct found own same
  · rintro rfl
    rw [found]
    rfl

theorem acquire_issued (consistent : session.Consistent) (key : String) :
    (session.cache.acquire key).1 < (session.cache.acquire key).2.nextLock := by
  rw [Cache.acquire_nextLock, Cache.acquire_lock]
  cases own : session.cache.slots.find? key with
  | none => exact Nat.lt_succ_self _
  | some slot => exact consistent.issued own

/-- A call takes the lock of its key, or a place in its queue. -/
theorem take (consistent : session.Consistent) {id : Nat} {call : Call τ α}
    (made : session.call? id = some call) (come : session.phase? id = some .arriving)
    {lock : Nat} (asked : (session.cache.acquire call.key).1 = lock) {phase : Phase α}
    (inside : phase = .woken lock ∨ phase = .queued lock) (mutex : Mutex)
    (holder : ∀ other, mutex.holder = some other ↔
      if other = id then phase.held? = some lock else session.Holds other lock)
    (queue : ∀ other, other ∈ mutex.queue ↔
      if other = id then phase.awaited? = some lock else session.Awaits other lock)
    (nodup : mutex.queue.Nodup) (free : mutex.holder = none → mutex.queue = []) :
    (({ session with cache := (session.cache.acquire call.key).2 }.setMutex lock mutex).setPhase
      id phase).Consistent := by
  subst asked
  have locks : ∀ other, (({ session with cache := (session.cache.acquire call.key).2 }.setMutex
      (session.cache.acquire call.key).1 mutex).setPhase id phase).mutex other =
        if other = (session.cache.acquire call.key).1 then mutex else session.mutex other := by
    intro other
    rw [mutex_setPhase, mutex_setMutex]
    rfl
  refine ⟨consistent.toAgreeing.shift (?_ : Shift session id call .arriving phase
    (session.cache.acquire call.key).1 mutex (some ⟨(session.cache.acquire call.key).1,
      (session.cache.slots.find? call.key).elim 0 Slot.users + 1⟩) _), fun other => ?_,
    fun on => consistent.locked_setPhase come ((Cache.acquire_enabled ..).symm.trans on) ?_⟩
  · refine
      { made := made
        come := come
        had := by simp [Phase.held?, Phase.awaited?]
        has := by rcases inside with rfl | rfl <;> simp [Phase.held?, Phase.awaited?, eq_comm]
        holder := holder
        queue := queue
        nodup := nodup
        count := by
          rcases inside with rfl | rfl <;> simp [Phase.lock?, Phase.held?, Phase.awaited?]
        used := ?_
        owned := consistent.acquire_owned call.key
        calls := rfl
        mutexes := locks
        slots := fun key => Cache.find?_acquire _ _ key
        issued := fun _ => consistent.acquire_issued call.key
        nextLock := ?_ }
    · rintro slot ⟨⟩
      exact ⟨Nat.succ_pos _, rfl⟩
    · change session.cache.nextLock ≤ (session.cache.acquire call.key).2.nextLock
      rw [Cache.acquire_nextLock]
      split <;> omega
  · rw [locks]
    split
    · exact free
    · exact consistent.queue_eq_nil other
  · rcases inside with rfl | rfl <;> rintro _ ⟨⟩

theorem slot_of_holds (consistent : session.Consistent) {id lock : Nat} {call : Call τ α}
    (made : session.call? id = some call) (held : session.Holds id lock) :
    ∃ slot, session.cache.slots.find? call.key = some slot ∧ slot.lock = lock :=
  consistent.shared ⟨⟨call, made, rfl⟩, .inl held⟩

/-- The call has left, and nobody has been handed the lock yet. -/
theorem agreeing_left (consistent : session.Consistent) {id lock : Nat} {call : Call τ α}
    (made : session.call? id = some call) (held : session.Holds id lock)
    (result : Except Failure (Option α)) :
    ({ (session.setPhase id (.finished result)).setMutex lock
        ⟨none, (session.mutex lock).queue⟩ with
      cache := session.cache.release call.key } : Session τ α).Agreeing := by
  obtain ⟨slot, found, rfl⟩ := consistent.slot_of_holds made held
  obtain ⟨old, come, holds⟩ := Option.bind_eq_some_iff.1 held
  have waits : old.awaited? = none := by
    cases old with
    | queued lock => cases holds
    | _ => rfl
  have counted : old.lock?.isSome := by simp [Phase.lock?, holds]
  have used := consistent.users_pos found
  refine consistent.toAgreeing.shift (?_ : Shift session id call old (.finished result) slot.lock
    ⟨none, (session.mutex slot.lock).queue⟩
    (if slot.users ≤ 1 then none else some ⟨slot.lock, slot.users - 1⟩) _)
  refine
    { made := made
      come := come
      had := by simp [holds, waits, eq_comm]
      has := by simp [Phase.held?, Phase.awaited?]
      holder := fun other => ?_
      queue := fun other => ?_
      nodup := consistent.queue_nodup _
      count := ?_
      used := fun left remains => ?_
      owned := fun key other foundOther => ?_
      calls := rfl
      mutexes := fun other => mutex_setMutex _ _ other _
      slots := Cache.find?_release _ found
      issued := fun _ => ?_
      nextLock := ?_ }
  · split
    · simp [Phase.held?]
    · rename_i differ
      refine iff_of_false (by simp) fun held' => differ ?_
      have holder := (consistent.holder_iff _ _).2 held
      rw [(consistent.holder_iff _ _).2 held'] at holder
      exact Option.some.inj holder
  · rw [consistent.mem_queue_iff]
    split
    · rename_i same
      rw [same, Awaits, come, Option.bind_some, waits]
      simp [Phase.awaited?]
    · rfl
  · rw [if_pos counted, found]
    simp only [Phase.lock?, Phase.held?, Phase.awaited?, Option.or_none, Option.isSome_none,
      Bool.false_eq_true, ↓reduceIte, Option.elim_some]
    split
    · simp only [Option.elim_none]
      omega
    · simp only [Option.elim_some]
      omega
  · split at remains
    · cases remains
    · cases remains
      exact ⟨by simp only; omega, rfl⟩
  · constructor
    · exact consistent.distinct foundOther found
    · rintro rfl
      cases found.symm.trans foundOther
      rfl
  · simp only [Cache.release_nextLock]
    exact consistent.issued found
  · simp only [Cache.release_nextLock]
    exact Nat.le_refl _

/-- A call that is over leaves its lock: the slot counts one less, and the first call in the queue
holds the lock. -/
theorem leave (consistent : session.Consistent) {id lock : Nat} {call : Call τ α}
    (made : session.call? id = some call) (held : session.Holds id lock)
    (result : Except Failure (Option α)) :
    (session.leave id lock call.key result).1.Consistent := by
  refine ⟨?_, fun other => ?_, fun on other yields => ?_⟩
  · have left := consistent.agreeing_left made held result
    cases waits : (session.mutex lock).queue with
    | nil =>
      rw [leave_of_queue_eq_nil waits, ← waits]
      exact left
    | cons waiting rest =>
      have woken := left.wake lock waiting rest ((mutex_setMutex _ lock lock _).trans
        ((if_pos rfl).trans (congrArg _ waits)))
      rw [leave_of_queue_eq_cons waits]
      refine woken.congr (fun _ => rfl) (fun _ _ => Iff.rfl) (fun _ _ => Iff.rfl) (fun _ => rfl)
        (fun other => ?_) rfl rfl
      change Session.mutex (Session.setMutex _ lock _) other =
        Session.mutex (Session.setMutex (Session.setMutex _ lock _) lock _) other
      simp only [mutex_setMutex, mutex_setPhase]
      split <;> rfl
  · rw [mutex_leave]
    split
    · intro nobody
      rw [List.head?_eq_none_iff.1 nobody]
      rfl
    · exact consistent.queue_eq_nil other
  · obtain ⟨old, come, -⟩ := Option.bind_eq_some_iff.1 held
    rw [leave_cache, Cache.release_enabled] at on
    have gone : ∀ other yields, (session.setPhase id (.finished result)).phase? other ≠
        some (.fetching none yields) := consistent.locked_setPhase come on (by simp)
    rw [phase?_leave]
    split
    · cases (session.setPhase id (.finished result)).phase? other <;> rintro ⟨⟩
    · exact gone other yields

/-! ## Events keep the table in order -/

/-- A call takes the lock of its key, which nobody has. -/
theorem joined_free (consistent : session.Consistent) {id : Nat} {call : Call τ α}
    (made : session.call? id = some call) (come : session.phase? id = some .arriving)
    (free : session.mutex (session.lockOf call.key) = ⟨none, []⟩) :
    (session.joined id call.key (.woken (session.lockOf call.key))
      ⟨some id, []⟩).Consistent := by
  have asked : (session.cache.acquire call.key).1 = session.lockOf call.key := rfl
  refine consistent.take made come asked (.inl rfl) _ ?_ ?_ List.nodup_nil (by simp)
  · intro other
    have nobody : ¬ session.Holds other (session.lockOf call.key) := by
      rw [← consistent.holder_iff, free]
      intro equal
      cases equal
    by_cases same : other = id
    · simp [same, Phase.held?]
    · have differ : ¬ id = other := fun equal => same equal.symm
      simp [same, differ, nobody]
  · intro other
    have nobody : ¬ session.Awaits other (session.lockOf call.key) := by
      rw [← consistent.mem_queue_iff, free]
      exact List.not_mem_nil
    simp [Phase.awaited?, nobody]

/-- A call takes the last place in the queue of the lock of its key. -/
theorem joined_busy (consistent : session.Consistent) {id : Nat} {call : Call τ α}
    (made : session.call? id = some call) (come : session.phase? id = some .arriving)
    {holder : Option Nat} {queue : List Nat}
    (locked : session.mutex (session.lockOf call.key) = ⟨holder, queue⟩)
    (busy : holder = none → queue ≠ []) :
    (session.joined id call.key (.queued (session.lockOf call.key))
      ⟨holder, queue ++ [id]⟩).Consistent := by
  have outside : ¬ session.Holds id (session.lockOf call.key) ∧
      ¬ session.Awaits id (session.lockOf call.key) := by
    simp [Holds, Awaits, come, Phase.held?, Phase.awaited?]
  have asked : (session.cache.acquire call.key).1 = session.lockOf call.key := rfl
  refine consistent.take made come asked (.inr rfl) _ ?_ ?_ ?_ ?_
  · intro other
    rw [← consistent.holder_iff, locked]
    split
    · rename_i same
      rw [same]
      refine iff_of_false (fun held => outside.1 ?_) (by simp [Phase.held?])
      rw [← consistent.holder_iff, locked]
      exact held
    · rfl
  · intro other
    rw [← consistent.mem_queue_iff, locked]
    by_cases same : other = id
    · simp [same, Phase.awaited?]
    · simp [same]
  · have nodup := consistent.queue_nodup (session.lockOf call.key)
    rw [locked] at nodup
    refine List.nodup_append.2 ⟨nodup, by simp, ?_⟩
    intro other member last equal same
    rw [List.mem_singleton.1 equal] at same
    subst same
    apply outside.2
    rw [← consistent.mem_queue_iff, locked]
    exact member
  · intro nobody
    have empty := consistent.queue_eq_nil (session.lockOf call.key)
    rw [locked] at empty
    exact (busy nobody (empty nobody)).elim

variable [LE τ] [DecidableLE τ]

/-- Looking a key up changes entries only. -/
theorem look (consistent : session.Consistent) (key : String) : (session.look key).Consistent :=
  consistent.congr rfl rfl (Cache.get_slots ..) (Cache.get_nextLock ..) (Cache.get_enabled ..)

variable [Clock τ]

/-- Moves keep the table in order. -/
theorem move (consistent : session.Consistent) {id : Nat} {call : Call τ α}
    (made : session.call? id = some call) {next : Session τ α}
    (move : Move id call session next) :
    next.Consistent := by
  cases move with
  | look => exact consistent.look call.key
  | find come found => exact consistent.setPhase made come rfl rfl fun _ => by simp
  | take come free => exact consistent.joined_free made come free
  | wait come locked busy => exact consistent.joined_busy made come locked busy
  | @begin lock come missed =>
    have fetched : Consistent { session with fetches := session.fetches ++ [id] } :=
      consistent.congr rfl rfl rfl rfl rfl
    exact fetched.setPhase made come rfl rfl fun _ => by simp
  | beginUnlocked come off =>
    have fetched : Consistent { session with fetches := session.fetches ++ [id] } :=
      consistent.congr rfl rfl rfl rfl rfl
    exact fetched.setPhase made come rfl rfl fun on => absurd on (by simp [off])
  | @giveWay lock yields come =>
    refine consistent.setPhase made come rfl rfl fun on yields' same => ?_
    rw [(Phase.fetching.inj same).1] at come
    exact consistent.locked on id _ come
  | finish come =>
    have timed : Consistent { session with now := (call.fetch.run session.now).1 } :=
      consistent.congr rfl rfl rfl rfl rfl
    exact timed.setPhase made come rfl rfl fun _ => by simp

/-- A call that is about to leave its lock holds it. -/
theorem ending (consistent : session.Consistent) {id : Nat} {call : Call τ α}
    {next : Session τ α} {lock : Nat} {result : Except Failure (Option α)}
    (ending : Ending id call session next lock result) :
    next.Consistent ∧ next.Holds id lock := by
  cases ending with
  | found come found => exact ⟨consistent, Option.bind_eq_some_iff.2 ⟨_, come, rfl⟩⟩
  | fetched come =>
    refine ⟨consistent.congr rfl rfl (Cache.settle_slots ..) (Cache.settle_nextLock ..)
      (Cache.settle_enabled ..), ?_⟩
    exact Option.bind_eq_some_iff.2 ⟨_, come, rfl⟩

theorem resume (consistent : session.Consistent) (id : Nat) :
    (session.resume id).1.Consistent :=
  resume_induction consistent id (fun made moves consistent => consistent.move made moves)
    fun made ends consistent => (consistent.ending ends).1.leave
      ((ends.call? _).trans made) (consistent.ending ends).2 _

theorem step (consistent : session.Consistent) (event : Event τ) :
    (session.step event).Consistent := by
  cases event with
  | resume id => exact consistent.resume id
  | wait time =>
    unfold Session.step
    dsimp only
    split
    · exact consistent.congr rfl rfl rfl rfl rfl
    · exact consistent
  | invalidate => exact consistent.congr rfl rfl rfl rfl rfl

/-- **Every interleaving keeps the table of locks in order.** -/
theorem after {cache : Cache τ α} (idle : cache.pending = []) (now : τ)
    (calls : List (Call τ α))
    (events : List (Event τ)) : ((Session.start cache now calls).after events).Consistent :=
  after_induction (start idle now calls) (fun _ event consistent => consistent.step event) events

end Consistent

end Session

end ArenaStandings
