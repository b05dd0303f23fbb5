import ArenaStandings.Proofs.Cache.LockTable

/-!
# One fetch at a time

In a consistent session the calls of a key that are inside share the lock in its slot, and a lock
has one holder. Hence a cache that is switched on lets one call of a key fetch at a time, a call
that leaves finds its slot, and no slot outlives the calls: `Session.Guarded` collects what the
slots are for, and every interleaving is guarded. A cache that is switched off gives no locks, so
there the calls of a key do fetch at the same time.
-/

namespace ArenaStandings

namespace Session

variable {τ α : Type}

section Fetches

variable [LE τ] [DecidableLE τ] [Clock τ]

theorem fetches_complete (session : Session τ α) (id : Nat) (call : Call τ α)
    (lock : Option Nat) : (session.complete id call lock).session.fetches = session.fetches := by
  cases lock <;> rfl

end Fetches

/-- What the slots are for. -/
structure Guarded [LE τ] [DecidableLE τ] [Clock τ] (session : Session τ α) : Prop where
  /-- A key has a slot exactly while a call of it is inside. -/
  present_iff : ∀ key,
    (∃ slot, session.cache.slots.find? key = some slot) ↔
      ∃ id lock, session.Inside key id lock
  counted : ∀ {key slot}, session.cache.slots.find? key = some slot →
    slot.users = session.users key
  shared : ∀ {key slot id lock}, session.cache.slots.find? key = some slot →
    session.Inside key id lock → lock = slot.lock
  apart : session.cache.enabled = true → ∀ {key first second},
    session.Fetching key first → session.Fetching key second → first = second
  /-- No call begins to fetch while another of its key does. -/
  waits : session.cache.enabled = true → ∀ {id call other}, session.call? id = some call →
    session.Fetching call.key other → (session.resume id).1.fetches = session.fetches
  /-- A call that is about to leave its lock has a slot to release. -/
  releasable : ∀ {id running next lock result}, session.calls[id]? = some running →
    session.stretch id running = .leaving next lock result →
      ∃ slot, next.cache.slots.find? running.call.key = some slot
  vacant : (∀ key id lock, ¬ session.Inside key id lock) → session.cache.pending = []

namespace Consistent

variable {session : Session τ α}

theorem eq_of_holds (consistent : session.Consistent) {first second lock : Nat}
    (held : session.Holds first lock) (held' : session.Holds second lock) : first = second := by
  rw [← consistent.holder_iff] at held held'
  exact Option.some.inj (held.symm.trans held')

/-- In a cache that is switched on, a call that fetches holds the lock of its key. -/
theorem holds_of_fetching (consistent : session.Consistent) (on : session.cache.enabled = true)
    {key : String} {id : Nat} (fetching : session.Fetching key id) :
    ∃ slot, session.cache.slots.find? key = some slot ∧ session.Holds id slot.lock := by
  obtain ⟨⟨call, made, rfl⟩, held?, yields, come⟩ := fetching
  cases held? with
  | none => exact (consistent.locked on id yields come).elim
  | some lock =>
    have held : session.Holds id lock := Option.bind_eq_some_iff.2 ⟨_, come, rfl⟩
    obtain ⟨slot, found, rfl⟩ := consistent.slot_of_holds made held
    exact ⟨slot, found, held⟩

/-- A call that holds the lock of its key is the only one of the key that can be fetching. -/
theorem eq_of_holds_of_fetching (consistent : session.Consistent)
    (on : session.cache.enabled = true) {id other lock : Nat} {call : Call τ α}
    (made : session.call? id = some call) (held : session.Holds id lock)
    (fetching : session.Fetching call.key other) : id = other := by
  obtain ⟨slot, found, held'⟩ := consistent.holds_of_fetching on fetching
  obtain ⟨slot', found', rfl⟩ := consistent.slot_of_holds made held
  cases found.symm.trans found'
  exact consistent.eq_of_holds held held'

/-- A slot is that of a call inside. -/
theorem present_iff (consistent : session.Consistent) (key : String) :
    (∃ slot, session.cache.slots.find? key = some slot) ↔
      ∃ id lock, session.Inside key id lock := by
  constructor
  · rintro ⟨slot, found⟩
    have counted := consistent.users_eq key
    rw [found, Option.elim_some] at counted
    have used : 0 < session.users key := counted ▸ consistent.users_pos found
    obtain ⟨running, member, inside⟩ := List.countP_pos_iff.1 used
    obtain ⟨id, here⟩ := List.mem_iff_getElem?.1 member
    rw [Bool.and_eq_true, decide_eq_true_eq, Option.isSome_iff_exists] at inside
    obtain ⟨same, lock, locked⟩ := inside
    refine ⟨id, lock, ⟨running.call, by rw [call?, here, Option.map_some], same⟩, ?_⟩
    rw [Holds, Awaits, phase?, here]
    exact Phase.lock?_eq_some_iff.1 locked
  · rintro ⟨id, lock, inside⟩
    obtain ⟨slot, found, -⟩ := consistent.shared inside
    exact ⟨slot, found⟩

theorem pending_eq_nil (consistent : session.Consistent)
    (outside : ∀ key id lock, ¬ session.Inside key id lock) : session.cache.pending = [] := by
  apply List.eq_nil_iff_forall_not_mem.2
  intro key member
  cases found : session.cache.slots.find? key with
  | none => exact (Table.find?_eq_none_iff _ _).1 found member
  | some slot =>
    obtain ⟨id, lock, inside⟩ := (consistent.present_iff key).1 ⟨slot, found⟩
    exact outside key id lock inside

variable [LE τ] [DecidableLE τ] [Clock τ]

/-- A call that asks for the lock of a key does not get it while another call of the key fetches. -/
theorem fetches_join (consistent : session.Consistent) (on : session.cache.enabled = true)
    {call : Call τ α} {other : Nat} (fetching : session.Fetching call.key other) (id : Nat) :
    (session.join id call).session.fetches = session.fetches := by
  obtain ⟨slot, found, held⟩ := consistent.holds_of_fetching on fetching
  have lock : (session.cache.acquire call.key).1 = slot.lock := by
    rw [Cache.acquire_lock, found, Option.elim_some]
  unfold Session.join
  dsimp only
  split
  · rename_i free
    change session.mutex (session.cache.acquire call.key).1 = _ at free
    rw [lock] at free
    rw [← consistent.holder_iff, free] at held
    cases held
  · rfl

/-- While one call of a key fetches, no stretch of another begins a fetch. -/
theorem fetches_stretch (consistent : session.Consistent) (on : session.cache.enabled = true)
    {id other : Nat} {running : Running τ α} (here : session.calls[id]? = some running)
    (fetching : session.Fetching running.call.key other) :
    (session.stretch id running).session.fetches = session.fetches := by
  have made : session.call? id = some running.call := by rw [call?, here, Option.map_some]
  have come : session.phase? id = some running.phase := by rw [phase?, here, Option.map_some]
  have looked : ({ session with cache := (session.cache.get session.now running.call.key).2 } :
      Session τ α).Consistent :=
    consistent.congr rfl rfl (Cache.get_slots ..) (Cache.get_nextLock ..) (Cache.get_enabled ..)
  unfold Session.stretch
  split
  · unfold Session.arrive
    rw [if_neg (by simp [on])]
    split
    · rfl
    · rename_i seen found
      rw [found] at looked
      refine looked.fetches_join ?_ fetching id
      have same := Cache.get_enabled session.cache session.now running.call.key
      rw [found] at same
      exact same.trans on
  · rfl
  · rename_i lock reached
    rw [reached] at come
    have held : session.Holds id lock := Option.bind_eq_some_iff.2 ⟨_, come, rfl⟩
    obtain rfl := consistent.eq_of_holds_of_fetching on made held fetching
    obtain ⟨-, held?, yields, come'⟩ := fetching
    cases come.symm.trans come'
  · exact fetches_complete ..
  · rfl
  · rfl

/-- While one call of a key fetches, no other begins to. -/
theorem fetches_resume (consistent : session.Consistent) (on : session.cache.enabled = true)
    {id other : Nat} {call : Call τ α} (made : session.call? id = some call)
    (fetching : session.Fetching call.key other) :
    (session.resume id).1.fetches = session.fetches := by
  obtain ⟨running, here, rfl⟩ := Option.map_eq_some_iff.1 made
  have kept := consistent.fetches_stretch on here fetching
  rw [resume_eq here]
  cases ended : session.stretch id running with
  | paused next ready => rwa [ended] at kept
  | leaving next lock result =>
    rw [ended] at kept
    exact (leave_fetches ..).trans kept

theorem releasable (consistent : session.Consistent) {id : Nat} {running : Running τ α}
    {next : Session τ α} {lock : Nat} {result : Except Failure (Option α)}
    (here : session.calls[id]? = some running)
    (ended : session.stretch id running = .leaving next lock result) :
    ∃ slot, next.cache.slots.find? running.call.key = some slot := by
  have made : session.call? id = some running.call := by rw [call?, here, Option.map_some]
  cases able : running.phase.isAble with
  | false =>
    rw [stretch_of_stuck able] at ended
    cases ended
  | true =>
    have reached := reached_stretch here able
    rw [ended] at reached
    obtain ⟨last, moves, ends⟩ := reached
    obtain ⟨made', kept⟩ := Moves.induction moves made consistent
      fun made moves consistent => consistent.move made moves
    obtain ⟨consistent', held⟩ := kept.ending ends
    obtain ⟨slot, found, -⟩ := consistent'.slot_of_holds ((ends.call? _).trans made') held
    exact ⟨slot, found⟩

theorem guarded (consistent : session.Consistent) : session.Guarded where
  present_iff := consistent.present_iff
  counted := fun {key slot} found => by
    have counted := consistent.users_eq key
    rwa [found, Option.elim_some] at counted
  shared := fun found inside => by
    obtain ⟨slot, found', rfl⟩ := consistent.shared inside
    cases found.symm.trans found'
    rfl
  apart := fun on {key first second} fetching fetching' => by
    obtain ⟨slot, found, held⟩ := consistent.holds_of_fetching on fetching
    obtain ⟨slot', found', held'⟩ := consistent.holds_of_fetching on fetching'
    cases found.symm.trans found'
    exact consistent.eq_of_holds held held'
  waits := fun on {id call other} made fetching => consistent.fetches_resume on made fetching
  releasable := fun here ended => consistent.releasable here ended
  vacant := consistent.pending_eq_nil

end Consistent

variable [LE τ] [DecidableLE τ] [Clock τ]

/-- **The slots in every interleaving.** Whatever calls go through a cache that has no slots, and in
whatever order they go on, every session that they come to is guarded. -/
theorem guarded_after {cache : Cache τ α} (idle : cache.pending = []) (now : τ)
    (calls : List (Call τ α)) (events : List (Event τ)) :
    ((start cache now calls).after events).Guarded :=
  (Consistent.after idle now calls events).guarded

/-- Two calls of a key with an empty cache, when both have been resumed once: the first gives way
once inside its fetch. -/
def twice (enabled : Bool) : Session Int String :=
  (start (.empty enabled 10) 0
    [⟨"k", ⟨.ok (some "a"), none⟩, 1, none⟩,
      ⟨"k", ⟨.ok (some "b"), none⟩, 1, none⟩]).after [.resume 0, .resume 1]

/-- The first of two calls fetches, the second waits for its lock, and the slot counts both. -/
theorem guarded_after_two :
    (twice true).Guarded ∧ (twice true).cache.slots.find? "k" = some ⟨0, 2⟩ ∧
      (twice true).Fetching "k" 0 ∧ (twice true).Awaits 1 0 :=
  ⟨guarded_after rfl 0 _ _, by decide, ⟨⟨_, rfl, rfl⟩, _, _, rfl⟩, rfl⟩

/-- In a cache that is switched off two calls of a key fetch at the same time. -/
theorem not_apart_of_disabled :
    ¬ ∀ key first second, (twice false).Fetching key first →
      (twice false).Fetching key second → first = second := by
  intro apart
  have same : 0 = 1 :=
    apart "k" 0 1 ⟨⟨_, rfl, rfl⟩, _, _, rfl⟩ ⟨⟨_, rfl, rfl⟩, _, _, rfl⟩
  cases same

end Session

end ArenaStandings
