import ArenaStandings.Proofs.Cache.LockTable

/-!
# Calls that take no time

In a batch, calls whose fetches take no time go through a cache that is switched on, so that all
look-ups are made at one moment (`Session.Batch`). A move of a call then shows in what is found
under its own key at most, and there only when the fetch of the call is over
(`Session.Batch.found?_move`, `Session.Batch.found?_settled_self`).
-/

namespace ArenaStandings

namespace Call

variable {τ α : Type} [LE τ] [DecidableLE τ] [Clock τ]

/-- What a call that fetches comes to: what it fetched, unless the moment until which to keep it
cannot be written down. -/
def own (call : Call τ α) (cache : Cache τ α) (now : τ) : Except Failure (Option α) :=
  (call.fetch.run now).2.bind fun value =>
    (Clock.later now (call.ttl.getD cache.defaultTtl)).map fun _ => value

/-- The value that a call that fetches leaves for others to find: what it fetched, if the moment
until which to keep it has not come. -/
def kept? (call : Call τ α) (cache : Cache τ α) (now : τ) : Option α :=
  match (call.fetch.run now).2, Clock.later now (call.ttl.getD cache.defaultTtl) with
  | .ok value, .ok expiry => if expiry ≤ now then none else value
  | _, _ => none

/-- On a clock of integers a value is left if it is to be kept for some time. -/
theorem kept?_int {call : Call Int α} {cache : Cache Int α} {now : Int} {value : α} :
    call.kept? cache now = some value ↔
      (call.fetch.run now).2 = .ok (some value) ∧ 0 < call.ttl.getD cache.defaultTtl := by
  unfold kept?
  cases (call.fetch.run now).2 with
  | error failure => simp
  | ok fetched =>
    change (if now + call.ttl.getD cache.defaultTtl ≤ now then none else fetched) = _ ↔ _
    by_cases positive : 0 < call.ttl.getD cache.defaultTtl
    · rw [if_neg (by omega)]
      simp [positive]
    · rw [if_pos (by omega)]
      simp [positive]

/-- On a clock of integers every call that fetches comes to what it fetched. -/
theorem own_int (call : Call Int α) (cache : Cache Int α) (now : Int) :
    call.own cache now = (call.fetch.run now).2 := by
  unfold own
  cases (call.fetch.run now).2 <;> rfl

/-- The same holds of integers among other numbers. -/
theorem kept?_number {call : Call Number α} {cache : Cache Number α} {now time : Int} {value : α}
    (given : call.ttl.getD cache.defaultTtl = .int time) :
    call.kept? cache (.int now) = some value ↔
      (call.fetch.run (.int now)).2 = .ok (some value) ∧ 0 < time := by
  unfold kept?
  rw [given]
  cases (call.fetch.run (.int now)).2 with
  | error failure => simp
  | ok fetched =>
    change (if Number.int (now + time) ≤ .int now then none else fetched) = _ ↔ _
    by_cases positive : 0 < time
    · rw [if_neg (by rw [Number.int_le_int]; omega)]
      simp [positive]
    · rw [if_pos (by rw [Number.int_le_int]; omega)]
      simp [positive]

theorem own_number {call : Call Number α} {cache : Cache Number α} {now time : Int}
    (given : call.ttl.getD cache.defaultTtl = .int time) :
    call.own cache (.int now) = (call.fetch.run (.int now)).2 := by
  unfold own
  rw [given]
  cases (call.fetch.run (.int now)).2 <;> rfl

end Call

namespace Session

variable {τ α : Type} [Clock τ]

/-- Calls with fetches that take no time go through a cache that is switched on. -/
structure Batch (cache : Cache τ α) (now : τ) (calls : List (Call τ α))
    (session : Session τ α) : Prop where
  consistent : session.Consistent
  enabled : session.cache.enabled = true
  clock : session.now = now
  defaultTtl : session.cache.defaultTtl = cache.defaultTtl
  made : ∀ id, session.call? id = calls[id]?
  steady : ∀ call ∈ calls, (call.fetch.run now).1 = now

variable {cache : Cache τ α} {now : τ} {calls : List (Call τ α)} {session next : Session τ α}
  {id : Nat} {call : Call τ α}

namespace Batch

theorem start (enabled : cache.enabled = true) (idle : cache.pending = [])
    (steady : ∀ call ∈ calls, (call.fetch.run now).1 = now) :
    Batch cache now calls (Session.start cache now calls) where
  consistent := .start idle now calls
  enabled := enabled
  clock := rfl
  defaultTtl := rfl
  made := call?_start cache now calls
  steady := steady

theorem steady_of_made (batch : Batch cache now calls session)
    (made : session.call? id = some call) : (call.fetch.run session.now).1 = now := by
  rw [batch.made] at made
  rw [batch.clock]
  exact batch.steady call (List.mem_of_getElem? made)

theorem leave (batch : Batch cache now calls session) (made : session.call? id = some call)
    {lock : Nat} (held : session.Holds id lock) (result : Except Failure (Option α)) :
    Batch cache now calls (session.leave id lock call.key result).1 where
  consistent := batch.consistent.leave made held result
  enabled := by rw [leave_cache, Cache.release_enabled, batch.enabled]
  clock := by rw [leave_now, batch.clock]
  defaultTtl := by rw [leave_cache, Cache.release_defaultTtl, batch.defaultTtl]
  made := fun other => by rw [call?_leave, batch.made]
  steady := batch.steady

variable [LE τ] [DecidableLE τ]

theorem move (batch : Batch cache now calls session) (made : session.call? id = some call)
    (move : Move id call session next) : Batch cache now calls next := by
  refine ⟨batch.consistent.move made move, move.cache_settings.1.trans batch.enabled, ?_,
    move.cache_settings.2.trans batch.defaultTtl,
    fun other => (move.call? other).trans (batch.made other), batch.steady⟩
  cases move with
  | finish => exact batch.steady_of_made made
  | look | find | take | wait | begin | beginUnlocked | giveWay => exact batch.clock

theorem ending (batch : Batch cache now calls session) (made : session.call? id = some call)
    {lock : Nat} {result : Except Failure (Option α)}
    (ends : Ending id call session next lock result) : Batch cache now calls next := by
  have consistent := (batch.consistent.ending ends).1
  have same : ∀ other, next.call? other = calls[other]? := fun other =>
    (ends.call? other).trans (batch.made other)
  cases ends with
  | found => exact batch
  | fetched =>
    exact ⟨consistent, (Cache.settle_enabled ..).trans batch.enabled, batch.steady_of_made made,
      (Cache.settle_defaultTtl ..).trans batch.defaultTtl, same, batch.steady⟩

/-! ## What is found -/

/-- No move shows in what is found. -/
theorem found?_move (batch : Batch cache now calls session) (made : session.call? id = some call)
    (move : Move id call session next) (key : String) :
    next.found? key = session.found? key := by
  cases move with
  | look => exact found?_look ..
  | take | wait => exact Cache.found_acquire ..
  | find | begin | beginUnlocked | giveWay => rfl
  | finish =>
    change (session.cache.get (call.fetch.run session.now).1 key).1 = _
    rw [batch.steady_of_made made, ← batch.clock]
    rfl

/-- What keeping the outcome of a call's fetch shows in is what is found under the key of the
call. -/
theorem found?_settled_of_ne (batch : Batch cache now calls session)
    (made : session.call? id = some call) {key : String} (differ : key ≠ call.key) :
    (session.settled call).found? key = session.found? key := by
  change ((session.written call).cache.get (call.fetch.run session.now).1 key).1 = _
  rw [written, batch.steady_of_made made, ← batch.clock]
  exact Cache.found_settle_of_ne differ ..

/-- When the fetch of a call is over, the value that it leaves is found if nothing was found. -/
theorem found?_settled_self (batch : Batch cache now calls session)
    (made : session.call? id = some call) (missed : session.found? call.key = none) :
    (session.settled call).found? call.key = call.kept? cache now := by
  have clock := batch.clock
  subst clock
  change ((session.written call).cache.get (call.fetch.run session.now).1 call.key).1 = _
  rw [written, batch.steady_of_made made, Cache.found_settle_self batch.enabled, batch.defaultTtl,
    Call.kept?]
  cases (call.fetch.run session.now).2 with
  | error failure => exact missed
  | ok value =>
    cases Clock.later session.now (call.ttl.getD cache.defaultTtl) with
    | error failure => exact missed
    | ok expiry => rfl

theorem result_written (batch : Batch cache now calls session)
    (made : session.call? id = some call) :
    ((session.written call).result.bind fun _ => (call.fetch.run session.now).2) =
      call.own cache now := by
  have clock := batch.clock
  subst clock
  rw [written, batch.steady_of_made made, Cache.result_settle batch.enabled, batch.defaultTtl,
    Call.own]

end Batch

end Session

end ArenaStandings
