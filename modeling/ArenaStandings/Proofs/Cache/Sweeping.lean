import ArenaStandings.Proofs.Cache.Refinement

/-!
# What a write sweeps out

A cache that is switched on is written to by a write, and by a call that fetches, if its fetch ends
well (`ClockedCache.Writes`). What a write leaves is its own entry and what is live at its moment
(`ClockedCache.Refines.left_by_writes`); whatever else is done to a cache leaves what was there or
less (`ClockedCache.find?_of_not_writes`). The timed map that the cache refines has all writes on
record: so right after a write every other key was last written for a time that is not over
(`ClockedCache.swept_after`).
-/

namespace ArenaStandings

namespace Cache

variable {τ α : Type} [LE τ] [DecidableLE τ] [Clock τ] {cache : Cache τ α} {now expiry : τ}
  {ttl : Option τ}

/-- A write leaves its entry and what is live. -/
theorem find?_set_eq_live? (enabled : cache.enabled = true)
    (moment : Clock.later now (ttl.getD cache.defaultTtl) = .ok expiry) (key : String)
    (value : Option α) (other : String) :
    (cache.set now key value ttl).cache.entries.find? other =
      if other = key then some ⟨value, expiry⟩ else cache.live? now other := by
  rw [find?_set enabled moment, sweep, Table.find?_filter]
  rfl

/-- A call that fetches a value leaves its entry and what is live when the fetch is over. -/
theorem find?_getOrSet_eq_live? (enabled : cache.enabled = true) {key : String}
    (missed : (cache.get now key).1 = none) {fetch : Fetch τ α} {value : Option α}
    (fetched : (fetch.run now).2 = .ok value)
    (moment : Clock.later (fetch.run now).1 (ttl.getD cache.defaultTtl) = .ok expiry)
    (other : String) :
    (cache.getOrSet now key fetch ttl).cache.entries.find? other =
      if other = key then some ⟨value, expiry⟩ else cache.live? (fetch.run now).1 other := by
  have switch : (cache.searched now key).enabled = true := (searched_enabled ..).trans enabled
  rw [← searched_defaultTtl cache now key] at moment
  rw [getOrSet_of_missed enabled missed, fetched, release_entries]
  refine (find?_set_eq_live? switch moment key value other).trans ?_
  by_cases same : other = key
  · rw [if_pos same, if_pos same]
  · rw [if_neg same, if_neg same, live?, live?, entries_searched]
    -- The look-up has touched the entry of its own key only.
    rcases cache.find?_get now key other with kept | ⟨same', -, -⟩
    · rw [kept]
    · exact absurd same' same

end Cache

namespace ClockedCache

variable {τ α : Type} [IntCast τ] [LE τ] [DecidableLE τ] [Clock τ]

/-- An operation writes a value under a key. -/
inductive Writes (state : ClockedCache τ α) : Cache.Operation α → String → Option α → Prop
  | set {key : String} {value : Option α} {ttl : Option Int}
      (enabled : state.cache.enabled = true) :
    Writes state (.set key value ttl) key value
  /-- What a call fetches is written when the fetch is over. -/
  | fetched {key : String} {fetch : Fetch Nat α} {ttl : Option Int} {value : Option α}
    (enabled : state.cache.enabled = true)
    (fetches : (state.cache.getOrSet state.now key fetch.onClock (ttl.map Int.cast)).fetched = true)
    (outcome : fetch.outcome = .ok value) : Writes state (.getOrSet key fetch ttl) key value

variable {state : ClockedCache τ α} {operation : Cache.Operation α} {key : String}

/-- **Nothing else adds to a cache.** An operation that writes nothing leaves only entries that were
there, with their values and moments. -/
theorem find?_of_not_writes (silent : ∀ key value, ¬ state.Writes operation key value)
    {entry : Entry τ α}
    (present : (state.step operation).cache.entries.find? key = some entry) :
    state.cache.entries.find? key = some entry := by
  cases operation with
  | set written value ttl =>
    cases enabled : state.cache.enabled with
    | true => exact absurd (.set enabled) (silent written value)
    | false =>
      rw [step, Cache.set, enabled] at present
      exact present
  | get looked => exact Cache.find?_of_find?_get present
  | getOrSet called fetch ttl =>
    change Table.find?
      (state.cache.getOrSet state.now called fetch.onClock _).cache.entries key = _ at present
    cases enabled : state.cache.enabled with
    | false =>
      rw [Cache.getOrSet_of_disabled enabled] at present
      exact present
    | true =>
      cases found : (state.cache.get state.now called).1 with
      | some value =>
        rw [Cache.getOrSet_of_found found] at present
        exact Cache.find?_of_find?_get present
      | none =>
        rcases Cache.find?_getOrSet present with before | ⟨-, fetched, -⟩
        · exact before
        · -- A value that is fetched here would be written.
          have outcome : (fetch.onClock : Fetch τ α).outcome = .ok entry.value :=
            Fetch.outcome_of_run fetched
          exact absurd (.fetched enabled (Cache.fetched_getOrSet_iff.2 found) outcome)
            (silent called entry.value)
  | delete deleted =>
    rw [step, Cache.delete, Table.find?_erase] at present
    by_cases same : key = deleted
    · rw [if_pos same] at present
      cases present
    · rw [if_neg same] at present
      exact present
  | deletePattern pattern =>
    rw [step, Cache.deletePattern, Table.find?_filter] at present
    exact (Option.filter_eq_some_iff.1 present).1
  | invalidateLeaderboard => exact (Cache.find?_invalidateLeaderboard.1 present).1
  | clear => cases present
  | setEnabled enabled => exact present
  | advance time =>
    rw [step] at present
    cases moved : Clock.later state.now ((time : Int) : τ) with
    | ok later =>
      rw [moved] at present
      exact present
    | error failure =>
      rw [moved] at present
      exact present

variable [WholeClock τ]

/-- **What a write leaves.** The map has the write on record, for some time. The cache has its
entry, and under other keys what is live at the moment at which the operation ends. -/
theorem Refines.left_by_writes {map : TimedMap α} (refines : Refines state map) {value : Option α}
    (writes : state.Writes operation key value) :
    ∃ time : Int,
      (map.step operation).effects =
        .write key value (map.step operation).now time :: map.effects ∧
      ∀ other, (state.step operation).cache.entries.find? other =
        if other = key then some ⟨value, (((map.step operation).now + time : Int) : τ)⟩
        else state.cache.live? (state.step operation).now other := by
  cases writes with
  | @set _ _ ttl enabled =>
    have switch : map.enabled = true := refines.enabled.symm.trans enabled
    have record : map.step (.set key value ttl) =
        map.record (.write key value map.now (ttl.getD map.defaultTtl)) := if_pos switch
    refine ⟨ttl.getD map.defaultTtl, ?_, fun other => ?_⟩
    · rw [record]
      rfl
    · rw [record]
      exact Cache.find?_set_eq_live? enabled (refines.later_ttl ttl) key value other
  | @fetched _ fetch ttl _ enabled fetches outcome =>
    have missed : (state.cache.get state.now key).1 = none := Cache.fetched_getOrSet_iff.1 fetches
    have held : map.held? key = none := (refines.found key).symm.trans missed
    have switch : map.enabled = true := refines.enabled.symm.trans enabled
    have later := refines.advance (fetch.duration.getD 0)
    have ends : (fetch.onClock : Fetch τ α).run state.now = _ := refines.run_onClock fetch
    have record : map.step (.getOrSet key fetch ttl) =
        (map.advance (fetch.duration.getD 0)).record
          (.write key value (map.advance (fetch.duration.getD 0)).now
            (ttl.getD map.defaultTtl)) := by
      rw [TimedMap.step, held, outcome]
      exact if_pos switch
    have fetched : ((fetch.onClock : Fetch τ α).run state.now).2 = .ok value := by
      rw [ends]
      exact outcome
    have expires : Clock.later ((fetch.onClock : Fetch τ α).run state.now).1
        ((ttl.map Int.cast).getD state.cache.defaultTtl) =
          .ok (Int.cast
            ((map.advance (fetch.duration.getD 0)).now + ttl.getD map.defaultTtl)) := by
      rw [ends]
      exact later.later_ttl ttl
    have ended : (state.step (.getOrSet key fetch ttl)).now =
        ((fetch.onClock : Fetch τ α).run state.now).1 := Cache.now_getOrSet_of_missed missed ..
    refine ⟨ttl.getD map.defaultTtl, ?_, fun other => ?_⟩
    · rw [record]
      rfl
    · rw [record, ended]
      exact Cache.find?_getOrSet_eq_live? enabled missed fetched expires other

/-- **A write sweeps out what is over.** After any operations on an empty cache, an operation that
writes leaves its entry, which is on record as written when the operation ended, and under every
other key at most what was last written there, for a time that is not over then. An operation that
writes nothing leaves only what was there. -/
theorem swept_after (enabled : Bool) (defaultTtl now : Int) (operations : List (Cache.Operation α))
    (operation : Cache.Operation α) :
    let state : ClockedCache τ α := (start enabled defaultTtl now).after operations
    let map : TimedMap α := (TimedMap.start enabled defaultTtl now).after operations
    let next := state.step operation
    let log := map.step operation
    (∀ written value, state.Writes operation written value →
      next.now = (log.now : τ) ∧
        (∃ time : Int, log.effects = .write written value log.now time :: map.effects ∧
          next.cache.entries.find? written = some ⟨value, ((log.now + time : Int) : τ)⟩) ∧
        ∀ key entry, next.cache.entries.find? key = some entry → key ≠ written →
          ∃ moment time, log.effects.find? (·.affects key) =
              some (.write key entry.value moment time) ∧
            entry.expiry = ((moment + time : Int) : τ) ∧ log.now < moment + time) ∧
      ((∀ written value, ¬ state.Writes operation written value) →
        ∀ key entry, next.cache.entries.find? key = some entry →
          state.cache.entries.find? key = some entry) := by
  intro state map next log
  have refines : Refines state map := (Refines.start enabled defaultTtl now).after operations
  have refines' : Refines next log := refines.step operation
  refine ⟨?writing, fun silent key entry present => find?_of_not_writes silent present⟩
  intro written value writes
  obtain ⟨time, recorded, left⟩ := refines.left_by_writes writes
  refine ⟨refines'.now, ⟨time, recorded, (left written).trans (if_pos rfl)⟩, ?_⟩
  intro key entry present differ
  obtain ⟨last, wrote, rfl⟩ := refines'.written present
  obtain ⟨moment, time, effect, expiry⟩ := TimedMap.written?_eq_some_iff.1 wrote
  have live : state.cache.live? (log.now : τ) key = some last.onClock := by
    rw [← refines'.now, ← present]
    exact ((left key).trans (if_neg differ)).symm
  have same : (last.onClock : Entry τ α).isExpired (log.now : τ) = last.isExpired log.now :=
    last.isExpired_onClock log.now
  have fresh : last.isExpired log.now = false := by
    rw [← same]
    simpa using (Option.filter_eq_some_iff.1 live).2
  refine ⟨moment, time, effect, congrArg Int.cast expiry, ?_⟩
  rw [← expiry]
  exact Int.not_le.1 (of_decide_eq_false fresh)

/-- A short write, one that is overwritten for another time, one that is lost since the cache is
switched off, and a fetch that fails, with time passing. -/
def mixedRun : List (Cache.Operation String) :=
  [.set "short" (some "first") (some 5), .set "long" (some "first") none, .setEnabled false,
    .set "off" (some "lost") none, .setEnabled true, .set "long" (some "second") (some 20),
    .advance 7, .getOrSet "failed" ⟨.error .notConnected, some 1⟩ none]

/-- A page that is fetched after a while. -/
def slowPage : Cache.Operation String := .getOrSet "page" ⟨.ok (some "fetched"), some 2⟩ none

/-- Fetching a page sweeps out the short write, which is over, and looking that up adds nothing. -/
theorem swept_after_mixed :
    let state : ClockedCache Number String := (start true 30 1000).after mixedRun
    let log : TimedMap String := ((TimedMap.start true 30 1000).after mixedRun).step slowPage
    state.cache.keys = ["short", "long"] ∧ (state.step slowPage).cache.keys = ["long", "page"] ∧
      (∀ key entry, (state.step slowPage).cache.entries.find? key = some entry →
        key ≠ "page" → ∃ moment time,
          log.effects.find? (·.affects key) = some (.write key entry.value moment time) ∧
          entry.expiry = ((moment + time : Int) : Number) ∧ 1010 < moment + time) ∧
      ∀ key entry, (state.step (.get "short")).cache.entries.find? key = some entry →
        state.cache.entries.find? key = some entry := by
  intro state log
  have writes : state.Writes slowPage "page" (some "fetched") := .fetched rfl (by decide) rfl
  obtain ⟨-, -, swept⟩ := (swept_after true 30 1000 mixedRun slowPage).1 _ _ writes
  refine ⟨by decide, by decide, swept, ?silent⟩
  exact (swept_after true 30 1000 mixedRun (.get "short")).2 nofun

end ClockedCache

end ArenaStandings
