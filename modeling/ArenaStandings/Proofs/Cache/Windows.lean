import ArenaStandings.Proofs.Cache.Calls
import ArenaStandings.Proofs.Cache.Exclusion
import ArenaStandings.Proofs.Cache.Invalidation
import ArenaStandings.Proofs.Decimal.Exact

/-!
# One write in the time of an entry

A call that has fetched writes what it fetched (`Session.Writes`), and nothing else brings entries
into a cache that is switched on (`Session.Tracked.find?_step`). Until a written value expires it
keeps the calls of its key from fetching (`Session.HoldsOff`): whoever has the lock of the key looks
again and finds it. So however calls interleave, a key is not written again before the time of its
last value is over (`Session.apart_after`), on any clock whose order is transitive, as that of
numbers is.
-/

namespace ArenaStandings

namespace Session

variable {τ α : Type}

/-! ## Calls on record -/

/-- The cache is switched on, and the calls on record are those that have begun to fetch. -/
structure Tracked (session : Session τ α) : Prop extends session.Recorded where
  enabled : session.cache.enabled = true
  unfetched : ∀ {id}, session.stage? id = some .before → id ∉ session.fetches

variable {session next last : Session τ α} {id : Nat} {call : Call τ α} {key : String}
  {entry : Entry τ α} {value : Option α} {ttl : τ}

namespace Tracked

theorem start {cache : Cache τ α} (idle : cache.pending = []) (on : cache.enabled = true)
    (now : τ) (calls : List (Call τ α)) : (Session.start cache now calls).Tracked :=
  ⟨.start idle now calls, on, fun _ => List.not_mem_nil⟩

variable [LE τ] [DecidableLE τ] [Clock τ] (tracked : session.Tracked)
include tracked

theorem move (made : session.call? id = some call) (move : Move id call session next) :
    next.Tracked := by
  refine ⟨tracked.toRecorded.move made move, move.cache_settings.1.trans tracked.enabled,
    fun {other} waits => ?_⟩
  cases move.shown with
  | still stages fetches =>
    rw [stages] at waits
    rw [fetches]
    exact tracked.unfetched waits
  | begins _ _ stages fetches =>
    rw [stages] at waits
    rw [fetches, List.mem_append, List.mem_singleton]
    split at waits
    · cases waits
    · rename_i differ
      exact fun member => member.elim (tracked.unfetched waits) differ
  | finds _ _ stages fetches | ends _ stages fetches =>
    rw [stages] at waits
    rw [fetches]
    split at waits
    · cases waits
    · exact tracked.unfetched waits

theorem leave (made : session.call? id = some call) {lock : Nat}
    {result : Except Failure (Option α)} (ends : Ending id call session next lock result) :
    (next.leave id lock call.key result).1.Tracked := by
  refine ⟨tracked.toRecorded.leave made ends, ?_, fun {other} waits => ?_⟩
  · rw [leave_cache, Cache.release_enabled]
    cases ends with
    | found => exact tracked.enabled
    | fetched => exact (Cache.settle_enabled ..).trans tracked.enabled
  · rw [ends.stage?_leave tracked.consistent] at waits
    rw [leave_fetches, ends.fetches]
    split at waits
    · cases waits
    · exact tracked.unfetched waits

theorem step (event : Event τ) : (session.step event).Tracked := by
  cases event with
  | resume id =>
    exact resume_induction tracked id (fun made moves tracked => tracked.move made moves)
      fun made ends tracked => tracked.leave made ends
  | wait time =>
    refine ⟨tracked.toRecorded.step (.wait time), ?_, ?_⟩
    · unfold Session.step
      dsimp only
      split <;> exact tracked.enabled
    · unfold Session.step
      dsimp only
      split <;> exact tracked.unfetched
  | invalidate =>
    exact ⟨tracked.toRecorded.step .invalidate, tracked.enabled, tracked.unfetched⟩

theorem after (events : List (Event τ)) : (session.after events).Tracked :=
  after_induction tracked (fun _ event tracked => tracked.step event) events

/-- No time passes in a move: in a cache that is switched on fetches end under a lock. -/
theorem now_move (move : Move id call session next) : next.now = session.now := by
  cases move with
  | finish come => exact (tracked.consistent.locked tracked.enabled id 0 come).elim
  | look | find | take | wait | begin | beginUnlocked | giveWay => rfl

end Tracked

variable [LE τ] [DecidableLE τ] [Clock τ]

/-- Moves of a call take no time, and the session stays what it has to be. -/
theorem Tracked.moves (tracked : session.Tracked) (made : session.call? id = some call)
    (moves : Moves id call session last) :
    last.call? id = some call ∧ last.Tracked ∧ last.now = session.now ∧
      last.cache.defaultTtl = session.cache.defaultTtl := by
  apply Moves.induction moves made
  · exact ⟨tracked, rfl, rfl⟩
  · intro middle next made move kept
    obtain ⟨tracked', now, default⟩ := kept
    exact ⟨tracked'.move made move, (tracked'.now_move move).trans now,
      move.cache_settings.2.trans default⟩

theorem Moves.find?_of_find? (moves : Moves id call session last)
    (present : last.cache.entries.find? key = some entry) :
    session.cache.entries.find? key = some entry := by
  induction moves with
  | refl => exact present
  | tail _ move ih => exact ih (move.find?_of_find? present)

/-- A call that is over makes no moves but to look its key up. -/
theorem Moves.result?_eq_none (moves : Moves id call session last)
    (ongoing : last.result? id = none) : session.result? id = none := by
  induction moves with
  | refl => exact ongoing
  | tail _ move ih =>
    apply ih
    cases move.shown with
    | still stages => rwa [result?_eq, stages, ← result?_eq] at ongoing
    | begins waits => exact result?_of_stage? waits
    | finds _ _ stages | ends _ stages =>
      rw [result?_of_stages stages, if_pos rfl] at ongoing
      cases ongoing

/-! ## Writes -/

/-- A call goes on and gives what it has fetched, which is written under its key for a time. -/
structure Writes (session : Session τ α) (id : Nat) (key : String) (value : Option α)
    (ttl : τ) : Prop where
  made : ∃ call, session.call? id = some call ∧ call.key = key ∧
    call.ttl.getD session.cache.defaultTtl = ttl
  ongoing : session.result? id = none
  recorded : id ∈ (session.resume id).1.fetches
  given : (session.resume id).1.result? id = some (.ok value)

/-- A call that comes to a result before it leaves its lock has found it, so it is not on record. -/
theorem Tracked.unfetched_of_moves (tracked : session.Tracked) (made : session.call? id = some call)
    (ongoing : session.result? id = none) (moves : Moves id call session last) :
    last.result? id = none ∨ id ∉ last.fetches := by
  have kept : last.call? id = some call ∧ last.Tracked ∧
      (last.result? id = none ∨ id ∉ last.fetches) := by
    apply Moves.induction moves made
    · exact ⟨tracked, .inl ongoing⟩
    · intro middle next made move kept
      obtain ⟨tracked, before⟩ := kept
      refine ⟨tracked.move made move, ?_⟩
      cases move.shown with
      | still stages fetches =>
        rw [result?_eq, stages, ← result?_eq, fetches]
        exact before
      | finds waits _ _ fetches =>
        rw [fetches]
        exact .inr (tracked.unfetched waits)
      | begins _ _ stages =>
        rw [result?_of_stages stages, if_pos rfl]
        exact .inl rfl
      | ends come => exact (tracked.consistent.locked tracked.enabled id 0 come).elim
  exact kept.2.2

/-- The fetch of a call is over, and there is a moment until which to keep what it fetched. -/
structure Storing (session : Session τ α) (id : Nat) (call : Call τ α) (lock : Nat)
    (value : Option α) (expiry : τ) : Prop where
  come : session.phase? id = some (.fetching (some lock) 0)
  fetched : (call.fetch.run session.now).2 = .ok value
  moment : Clock.later (call.fetch.run session.now).1
    (call.ttl.getD session.cache.defaultTtl) = .ok expiry

/-- A call that writes makes moves up to the end of its fetch, keeps what it fetched, and leaves its
lock. -/
theorem Tracked.storing_of_writes (tracked : session.Tracked)
    (writes : session.Writes id key value ttl) :
    ∃ call last lock expiry, session.call? id = some call ∧ call.key = key ∧
      call.ttl.getD last.cache.defaultTtl = ttl ∧ Moves id call session last ∧
      last.Storing id call lock value expiry ∧
      (session.resume id).1 = ((last.settled call).leave id lock call.key (.ok value)).1 := by
  obtain ⟨⟨call, made, own, time⟩, ongoing, recorded, given⟩ := writes
  rcases session.resume_cases id with
    same | ⟨call', made', moves | ⟨last, next, lock, result, moves, ends, left⟩⟩
  · rw [same, ongoing] at given
    cases given
  · rcases tracked.unfetched_of_moves made' ongoing moves with unended | unfetched
    · cases unended.symm.trans given
    · exact (unfetched recorded).elim
  · cases made.symm.trans made'
    obtain ⟨made', tracked', now, default⟩ := tracked.moves made moves
    rw [left, leave_fetches, ends.fetches] at recorded
    rw [left, result?_of_stages (ends.stage?_leave tracked'.consistent call.key), if_pos rfl]
      at given
    have comes : result = .ok value := Option.some.inj given
    cases ends with
    | found come hit => exact (tracked'.unfetched (stage?_of_phase? come) recorded).elim
    | fetched come =>
      rw [comes] at left
      obtain ⟨fetched, expiry, moment⟩ := (Cache.result_settle_eq_ok tracked'.enabled).1 comes
      exact ⟨call, last, lock, expiry, made, own, default ▸ time, moves,
        ⟨come, fetched, moment⟩, left⟩

namespace Storing

variable {lock : Nat} {expiry : τ} (storing : session.Storing id call lock value expiry)
include storing

/-- What is stored stands under the key until its moment. -/
theorem find?_settled (enabled : session.cache.enabled = true) :
    (session.settled call).cache.entries.find? call.key = some ⟨value, expiry⟩ := by
  change (session.cache.settle _ call.key _ call.ttl).cache.entries.find? call.key = _
  rw [storing.fetched]
  exact (Cache.find?_set enabled storing.moment ..).trans (if_pos rfl)

omit [LE τ] [DecidableLE τ] in
/-- While a call stores, no other call of its key is in its fetch. -/
theorem eq_of_stage? (tracked : session.Tracked) (made : session.call? id = some call)
    {other : Nat} {call' : Call τ α} (made' : session.call? other = some call')
    (same : call'.key = call.key) (fetching : session.stage? other = some .during) :
    id = other := by
  have held : session.Holds id lock := Option.bind_eq_some_iff.2 ⟨_, storing.come, rfl⟩
  apply tracked.consistent.eq_of_holds_of_fetching tracked.enabled made held
  obtain ⟨phase, come, during⟩ := Option.map_eq_some_iff.1 fetching
  cases phase with
  | fetching lock yields => exact ⟨⟨call', made', same⟩, lock, yields, come⟩
  | arriving | queued | woken | finished => cases during

end Storing

/-- **A write is in the cache.** When a call has written, its value stands under its key until the
moment to which the time leads, and no call of the key is in its fetch. -/
theorem Tracked.find?_of_writes (tracked : session.Tracked)
    (writes : session.Writes id key value ttl) :
    ∃ expiry, Clock.later (session.resume id).1.now ttl = .ok expiry ∧
      (session.resume id).1.cache.entries.find? key = some ⟨value, expiry⟩ ∧
      ∀ {other call}, (session.resume id).1.call? other = some call → call.key = key →
        (session.resume id).1.stage? other ≠ some .during := by
  obtain ⟨call, last, lock, expiry, made, rfl, time, moves, storing, left⟩ :=
    tracked.storing_of_writes writes
  obtain ⟨made', tracked', -, -⟩ := tracked.moves made moves
  refine ⟨expiry, ?_, ?_, ?_⟩
  · rw [left, leave_now, ← time]
    exact storing.moment
  · rw [left, leave_cache, Cache.release_entries]
    exact storing.find?_settled tracked'.enabled
  · intro other call' made'' own fetching
    have ends : Ending id call last (last.settled call) lock _ := .fetched storing.come
    obtain ⟨consistent, held⟩ := tracked'.consistent.ending ends
    rw [left, call?_leave, ends.call?] at made''
    rw [left, stage?_leave consistent held] at fetching
    split at fetching
    · cases fetching
    · rename_i differ
      exact differ (storing.eq_of_stage? tracked' made' made'' own fetching).symm

/-- **Entries are written.** In a cache that is switched on an entry was there before an event, or a
call has written it. -/
theorem Tracked.find?_step (tracked : session.Tracked) {event : Event τ}
    (present : (session.step event).cache.entries.find? key = some entry) :
    session.cache.entries.find? key = some entry ∨
      ∃ id ttl, event = .resume id ∧ session.Writes id key entry.value ttl ∧
        Clock.later (session.step event).now ttl = .ok entry.expiry := by
  cases event with
  | wait time =>
    unfold Session.step at present
    dsimp only at present
    split at present <;> exact .inl present
  | invalidate => exact .inl (Cache.find?_invalidateLeaderboard.1 present).1
  | resume id =>
    change (session.resume id).1.cache.entries.find? key = some entry at present
    rcases session.resume_cases id with
      same | ⟨call, made, moves | ⟨last, next, lock, result, moves, ends, left⟩⟩
    · rw [same] at present
      exact .inl present
    · exact .inl (moves.find?_of_find? present)
    · rw [left, leave_cache, Cache.release_entries] at present
      obtain ⟨made', tracked', now, default⟩ := tracked.moves made moves
      have stages := ends.stage?_leave tracked'.consistent call.key
      cases ends with
      | found come hit => exact .inl (moves.find?_of_find? present)
      | fetched come =>
        rcases Cache.find?_settle present with before | ⟨rfl, fetched, moment⟩
        · exact .inl (moves.find?_of_find? before)
        · have fetching := stage?_of_phase? come
          have given : ((last.written call).result.bind fun _ => (call.fetch.run last.now).2) =
              .ok entry.value :=
            (Cache.result_settle_eq_ok tracked'.enabled).2 ⟨fetched, entry.expiry, moment⟩
          refine .inr ⟨id, call.ttl.getD last.cache.defaultTtl, rfl, ⟨?_, ?_, ?_, ?_⟩, ?_⟩
          · exact ⟨call, made, rfl, by rw [default]⟩
          · exact moves.result?_eq_none (result?_of_stage? fetching)
          · rw [left, leave_fetches]
            exact tracked'.mem_fetches fetching
          · rw [left, result?_of_stages stages, if_pos rfl, given]
            rfl
          · change Clock.later (session.resume id).1.now _ = _
            rw [left, leave_now]
            exact moment

/-! ## What keeps calls from fetching -/

/-- An entry keeps the calls of its key from fetching until it is expired. -/
def HoldsOff (session : Session τ α) (key : String) (entry : Entry τ α) : Prop :=
  entry.expiry ≤ session.now ∨
    session.cache.entries.find? key = some entry ∧
      ∀ {id call}, session.call? id = some call → call.key = key →
        session.stage? id ≠ some .during

namespace HoldsOff

variable {held : α}

omit [Clock τ] in
/-- What is taken away because it is expired keeps nobody from fetching. -/
theorem expiry_le {cache : Cache τ α} {now : τ} (present : cache.entries.find? key = some entry)
    (expired : (cache.entries.find? key).all fun entry => entry.isExpired now) :
    entry.expiry ≤ now := by
  rw [present, Option.all_some] at expired
  exact of_decide_eq_true expired

/-- A call that has the lock of a key does not begin to fetch while its entry is not expired, for it
looks again first. -/
theorem move (holdsOff : session.HoldsOff key entry) (valued : entry.value = some held)
    (tracked : session.Tracked) (made : session.call? id = some call)
    (move : Move id call session next) : next.HoldsOff key entry := by
  have now := tracked.now_move move
  rcases holdsOff with expired | ⟨present, apart⟩
  · exact .inl (now ▸ expired)
  rcases move.find?_eq_or_expired key with kept | expired
  · cases move.shown with
    | still stages =>
      refine .inr ⟨kept.trans present, fun {other call'} made' own fetching => ?_⟩
      rw [move.call?] at made'
      rw [stages] at fetching
      exact apart made' own fetching
    | finds _ _ stages | ends _ stages =>
      refine .inr ⟨kept.trans present, fun {other call'} made' own fetching => ?_⟩
      rw [move.call?] at made'
      rw [stages] at fetching
      split at fetching
      · cases fetching
      · exact apart made' own fetching
    | begins _ entered stages =>
      by_cases same : call.key = key
      · rcases entered with ⟨lock, come, missed⟩ | off
        · have expired : entry.expiry ≤ session.now :=
            Cache.expiry_le_of_missed tracked.enabled present valued (same ▸ missed)
          exact .inl (now ▸ expired)
        · cases off.symm.trans tracked.enabled
      · refine .inr ⟨kept.trans present, fun {other call'} made' own fetching => ?_⟩
        rw [move.call?] at made'
        rw [stages] at fetching
        split at fetching
        · rename_i begun
          rw [begun, made] at made'
          cases made'
          exact same own
        · exact apart made' own fetching
  · exact .inl (now ▸ expiry_le present expired)

theorem moves (holdsOff : session.HoldsOff key entry) (valued : entry.value = some held)
    (tracked : session.Tracked) (made : session.call? id = some call)
    (moves : Moves id call session last) : last.HoldsOff key entry := by
  have kept : last.call? id = some call ∧ last.Tracked ∧ last.HoldsOff key entry := by
    apply Moves.induction moves made
    · exact ⟨tracked, holdsOff⟩
    · intro middle next made move kept
      obtain ⟨tracked, holdsOff⟩ := kept
      exact ⟨tracked.move made move, holdsOff.move valued tracked made move⟩
  exact kept.2.2

/-- A call that writes while an entry of its key keeps the others from fetching has begun before, so
the entry is expired. -/
theorem expiry_le_of_writes (holdsOff : session.HoldsOff key entry)
    (valued : entry.value = some held) (tracked : session.Tracked)
    (writes : session.Writes id key value ttl) : entry.expiry ≤ session.now := by
  obtain ⟨call, last, lock, expiry, made, own, -, moves, storing, -⟩ :=
    tracked.storing_of_writes writes
  obtain ⟨made', -, now, -⟩ := tracked.moves made moves
  rcases holdsOff.moves valued tracked made moves with expired | ⟨-, apart⟩
  · exact now ▸ expired
  · exact (apart made' own (stage?_of_phase? storing.come)).elim

variable [IsTrans τ (· ≤ ·)]

omit [DecidableLE τ] [Clock τ] in
/-- Once expired an entry stays so. -/
theorem mono (expired : entry.expiry ≤ session.now) (forward : session.now ≤ next.now) :
    next.HoldsOff key entry :=
  .inl (Trans.trans expired forward)

/-- Whoever leaves a lock of another key takes the entry away only if it is expired. -/
theorem leave (holdsOff : session.HoldsOff key entry) (tracked : session.Tracked)
    (made : session.call? id = some call) {lock : Nat} {result : Except Failure (Option α)}
    (ends : Ending id call session next lock result) (forward : session.now ≤ next.now) :
    (next.leave id lock call.key result).1.HoldsOff key entry := by
  rcases holdsOff with expired | ⟨present, apart⟩
  · refine mono expired ?_
    rwa [leave_now]
  have alone : ∀ {other call'},
      (next.leave id lock call.key result).1.call? other = some call' → call'.key = key →
        (next.leave id lock call.key result).1.stage? other ≠ some .during := by
    intro other call' made' own fetching
    rw [call?_leave, ends.call?] at made'
    rw [ends.stage?_leave tracked.consistent] at fetching
    split at fetching
    · cases fetching
    · exact apart made' own fetching
  cases ends with
  | found come hit =>
    refine .inr ⟨?_, alone⟩
    rw [leave_cache, Cache.release_entries]
    exact present
  | fetched come =>
    have differ : key ≠ call.key := by
      intro same
      exact apart made same.symm (stage?_of_phase? come)
    rcases Cache.find?_settle_of_ne differ session.cache (call.fetch.run session.now).1
      (call.fetch.run session.now).2 call.ttl with kept | expired
    · refine .inr ⟨?_, alone⟩
      rw [leave_cache, Cache.release_entries]
      exact kept.trans present
    · refine .inl ?_
      rw [leave_now]
      exact expiry_le present expired

theorem step (holdsOff : session.HoldsOff key entry) (valued : entry.value = some held)
    (tracked : session.Tracked) {event : Event τ} (unremoved : event ≠ .invalidate)
    (forward : session.now ≤ (session.step event).now) :
    (session.step event).HoldsOff key entry := by
  cases event with
  | invalidate => cases unremoved rfl
  | wait time =>
    rcases holdsOff with expired | before
    · exact mono expired forward
    · unfold Session.step
      dsimp only
      split <;> exact .inr before
  | resume id =>
    change session.now ≤ (session.resume id).1.now at forward
    change (session.resume id).1.HoldsOff key entry
    rcases session.resume_cases id with
      same | ⟨call, made, moves | ⟨last, next, lock, result, moves, ends, left⟩⟩
    · rwa [same]
    · exact holdsOff.moves valued tracked made moves
    · obtain ⟨made', tracked', now, -⟩ := tracked.moves made moves
      rw [left, leave_now, ← now] at forward
      rw [left]
      exact (holdsOff.moves valued tracked made moves).leave tracked' made' ends forward

end HoldsOff

/-- The clock does not go back while the events happen. -/
def RunsForward (session : Session τ α) : List (Event τ) → Prop
  | [] => True
  | event :: events =>
    session.now ≤ (session.step event).now ∧ (session.step event).RunsForward events

theorem runsForward_append {session : Session τ α} {first second : List (Event τ)} :
    session.RunsForward (first ++ second) ↔
      session.RunsForward first ∧ (session.after first).RunsForward second := by
  induction first generalizing session with
  | nil => exact (true_and _).to_iff.symm
  | cons event first ih =>
    rw [List.cons_append, RunsForward, RunsForward, ih, and_assoc]
    rfl

variable [IsTrans τ (· ≤ ·)]

theorem HoldsOff.after {session : Session τ α} {held : α} (holdsOff : session.HoldsOff key entry)
    (valued : entry.value = some held) (tracked : session.Tracked) {events : List (Event τ)}
    (unremoved : .invalidate ∉ events) (forward : session.RunsForward events) :
    (session.after events).HoldsOff key entry := by
  induction events generalizing session with
  | nil => exact holdsOff
  | cons event events ih =>
    obtain ⟨differ, unremoved⟩ := not_or.1 (List.mem_cons.not.1 unremoved)
    have next := holdsOff.step valued tracked (Ne.symm differ) forward.1
    exact ih next (tracked.step event) unremoved forward.2

/-- **One write in the time of a value.** In a cache that is switched on, from which no pages are
removed and whose clock does not go back, let a call write a value for a time, and let some call
write the same key again, whatever calls of this and of other keys go on between, before or inside
their fetches. Then the second write is not before the moment to which the time leads from the
first. -/
theorem apart_after {cache : Cache τ α} (idle : cache.pending = []) (on : cache.enabled = true)
    (now : τ) (calls : List (Call τ α)) (earlier middle : List (Event τ)) {first second : Nat}
    {held : α} {later : Option α} {ttl' : τ}
    (writes : ((start cache now calls).after earlier).Writes first key (some held) ttl)
    (again : ((start cache now calls).after (earlier ++ .resume first :: middle)).Writes second key
      later ttl')
    (unremoved : .invalidate ∉ middle)
    (forward : ((start cache now calls).after (earlier ++ [.resume first])).RunsForward
      (middle ++ [.resume second])) :
    ∃ bound,
      Clock.later ((start cache now calls).after (earlier ++ [.resume first])).now ttl =
        .ok bound ∧
      bound ≤ ((start cache now calls).after
        (earlier ++ .resume first :: (middle ++ [.resume second]))).now := by
  have tracked : ((start cache now calls).after earlier).Tracked :=
    (Tracked.start idle on now calls).after earlier
  simp only [after_append, after_cons, after_nil] at again forward ⊢
  obtain ⟨bound, moment, present, apart⟩ := tracked.find?_of_writes writes
  refine ⟨bound, moment, ?_⟩
  have tracked' := tracked.step (.resume first)
  obtain ⟨forward, last⟩ := runsForward_append.1 forward
  have holdsOff := HoldsOff.after (.inr ⟨present, apart⟩) rfl tracked' unremoved forward
  have expired : bound ≤ _ := holdsOff.expiry_le_of_writes rfl (tracked'.after middle) again
  exact Trans.trans expired last.1

/-- Two calls of a key with an empty cache, at a moment that is no whole number: the first gives way
once inside its fetch, so that the second has to wait for its lock. -/
def queuing : Session Number String :=
  start (.empty true 10) (.float 0.5)
    [⟨"k", ⟨.ok (some "a"), none⟩, 1, some 5⟩,
     ⟨"k", ⟨.ok (some "b"), some 2⟩, 0, none⟩]

/-- A call that had missed before the first write writes once the value of it is expired. -/
theorem apart_after_waiting :
    (queuing.after [.resume 0, .resume 1]).Awaits 1 0 ∧
      (queuing.after [.resume 0, .resume 1]).Writes 0 "k" (some "a") 5 ∧
      (queuing.after [.resume 0, .resume 1, .resume 0, .wait 5]).Writes 1 "k" (some "b") 10 ∧
      ∃ bound, Clock.later (queuing.after [.resume 0, .resume 1, .resume 0]).now 5 = .ok bound ∧
        bound ≤ (queuing.after [.resume 0, .resume 1, .resume 0, .wait 5, .resume 1]).now := by
  have writes : (queuing.after [.resume 0, .resume 1]).Writes 0 "k" (some "a") 5 :=
    ⟨⟨_, call?_after .., rfl, rfl⟩, by decide +kernel, by decide +kernel, by decide +kernel⟩
  have again : (queuing.after [.resume 0, .resume 1, .resume 0, .wait 5]).Writes 1 "k" (some "b")
      10 :=
    ⟨⟨_, call?_after .., rfl, by decide +kernel⟩, by decide +kernel, by decide +kernel,
      by decide +kernel⟩
  refine ⟨rfl, writes, again, ?_⟩
  apply apart_after rfl rfl _ _ [.resume 0, .resume 1] [.wait 5] writes again
  · exact fun member => by cases member with | tail _ member => cases member
  · exact ⟨by decide +kernel, by decide +kernel, trivial⟩

end Session

end ArenaStandings
