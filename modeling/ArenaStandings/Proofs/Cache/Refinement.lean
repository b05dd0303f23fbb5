import ArenaStandings.Proofs.Cache.Calls
import ArenaStandings.Proofs.Cache.TimedMap

/-!
# The cache refines a timed map

A `ClockedCache` is a cache with its clock. On a clock of whole numbers it runs beside the timed map
that the same operations make (`ClockedCache.Refines`): an entry that is kept is what was last
written under its key, and what was last written and is not expired is kept. Looking up and sweeping
remove expired entries only (`Cache.Forgets`), which the relation allows, and every other operation
is one effect on both sides (`ClockedCache.Refines.record`). So no look-up and no fetch shows when
entries are removed (`ClockedCache.observed_after`).
-/

namespace ArenaStandings

/-- A clock on which whole numbers are moments, in their own order, and add up. -/
class WholeClock (τ : Type) [LE τ] [Clock τ] [IntCast τ] : Prop where
  cast_le_cast (m n : Int) : (m : τ) ≤ (n : τ) ↔ m ≤ n
  later?_cast (m n : Int) : Clock.later? (m : τ) (n : τ) = some ((m + n : Int) : τ)

instance : WholeClock Int := ⟨fun _ _ => Iff.rfl, fun _ _ => rfl⟩

instance : WholeClock Number := ⟨Number.int_le_int, fun _ _ => rfl⟩

section Casts

variable {τ α : Type} [IntCast τ]

/-- An entry until a whole number, on any clock. -/
def Entry.onClock (entry : Entry Int α) : Entry τ α := ⟨entry.value, entry.expiry⟩

/-- A fetch that takes a whole time, on any clock. -/
def Fetch.onClock (fetch : Fetch Nat α) : Fetch τ α :=
  ⟨fetch.outcome, fetch.duration.map fun (time : Nat) => ((time : Int) : τ)⟩

variable [LE τ] [Clock τ] [WholeClock τ]

theorem Clock.later_cast (m n : Int) :
    Clock.later (m : τ) (n : τ) = .ok ((m + n : Int) : τ) := by
  rw [Clock.later, WholeClock.later?_cast]

theorem Entry.isExpired_onClock [DecidableLE τ] (entry : Entry Int α) (now : Int) :
    (entry.onClock : Entry τ α).isExpired (now : τ) = entry.isExpired now := by
  unfold Entry.isExpired Entry.onClock
  exact decide_eq_decide.2 (WholeClock.cast_le_cast ..)

/-- A fetch on a clock of whole numbers ends when its time is over, with what it comes to. -/
theorem Fetch.run_onClock (fetch : Fetch Nat α) (now : Int) :
    (fetch.onClock : Fetch τ α).run (now : τ) =
      (((now + (fetch.duration.getD 0 : Nat) : Int) : τ), fetch.outcome) := by
  unfold Fetch.run Fetch.onClock
  cases fetch.duration with
  | none => simp
  | some time =>
    rw [Option.map_some]
    dsimp only
    rw [Clock.later_cast]
    rfl

end Casts

/-! ## The relation -/

/-- A cache and the moment that its clock shows. -/
structure ClockedCache (τ α : Type) where
  cache : Cache τ α
  now : τ

namespace ClockedCache

variable {τ α : Type} [IntCast τ]

/-- An empty cache. -/
def start (enabled : Bool) (defaultTtl now : Int) : ClockedCache τ α :=
  ⟨.empty enabled (defaultTtl : τ), (now : τ)⟩

/-- The cache keeps what the map has under its keys, and may be without what is expired. -/
structure Refines (state : ClockedCache τ α) (map : TimedMap α) : Prop where
  now : state.now = (map.now : τ)
  enabled : state.cache.enabled = map.enabled
  defaultTtl : state.cache.defaultTtl = (map.defaultTtl : τ)
  /-- What is kept was written last. -/
  written : ∀ {key entry}, state.cache.entries.find? key = some entry →
    ∃ last, map.written? key = some last ∧ entry = last.onClock
  /-- What was written last is kept unless it is expired. -/
  kept : ∀ {key last}, map.written? key = some last → last.isExpired map.now = false →
    state.cache.entries.find? key = some last.onClock

namespace Refines

variable {map : TimedMap α} {now : τ} {cache other : Cache τ α}

theorem start (enabled : Bool) (defaultTtl now : Int) :
    Refines (ClockedCache.start enabled defaultTtl now : ClockedCache τ α)
      (.start enabled defaultTtl now) where
  now := rfl
  enabled := rfl
  defaultTtl := rfl
  written := nofun
  kept := nofun

/-- An effect keeps the sides together if it does to the entries what it does to the map. -/
theorem record (refines : Refines ⟨cache, now⟩ map) (effect : TimedMap.Effect α)
    (enabled : other.enabled = cache.enabled) (defaultTtl : other.defaultTtl = cache.defaultTtl)
    (done : ∀ key, other.entries.find? key =
      if effect.affects key then effect.written?.map Entry.onClock else cache.entries.find? key) :
    Refines ⟨other, now⟩ (map.record effect) where
  now := refines.now
  enabled := enabled.trans refines.enabled
  defaultTtl := defaultTtl.trans refines.defaultTtl
  written := by
    intro key entry present
    rw [TimedMap.written?_record]
    have changed := (done key).symm.trans present
    cases affected : effect.affects key with
    | true =>
      rw [affected, if_pos rfl, Option.map_eq_some_iff] at changed
      obtain ⟨last, left, rfl⟩ := changed
      exact ⟨last, left, rfl⟩
    | false =>
      rw [affected, if_neg Bool.false_ne_true] at changed
      exact refines.written changed
  kept := by
    intro key last written fresh
    rw [TimedMap.written?_record] at written
    refine (done key).trans ?_
    cases affected : effect.affects key with
    | true =>
      rw [affected, if_pos rfl] at written
      rw [if_pos rfl, written, Option.map_some]
    | false =>
      rw [affected, if_neg Bool.false_ne_true] at written
      exact refines.kept written fresh

theorem delete (refines : Refines ⟨cache, now⟩ map) (key : String) :
    Refines ⟨cache.delete key, now⟩ (map.record (.delete key)) := by
  refine refines.record (.delete key) rfl rfl fun other => ?_
  rw [Cache.delete, Table.find?_erase]
  simp [TimedMap.Effect.affects, TimedMap.Effect.written?]

theorem deletePattern (refines : Refines ⟨cache, now⟩ map) (pattern : String) :
    Refines ⟨(cache.deletePattern pattern).2, now⟩ (map.record (.deletePattern pattern)) := by
  refine refines.record (.deletePattern pattern) rfl rfl fun key => ?_
  rw [Cache.deletePattern, Table.find?_filter]
  cases fits : Glob.fits pattern key <;> cases cache.entries.find? key <;>
    simp [TimedMap.Effect.affects, TimedMap.Effect.written?, fits]

theorem clear (refines : Refines ⟨cache, now⟩ map) :
    Refines ⟨cache.clear, now⟩ (map.record .clear) :=
  refines.record .clear rfl rfl fun _ => rfl

theorem setEnabled (refines : Refines ⟨cache, now⟩ map) (enabled : Bool) :
    Refines ⟨cache.setEnabled enabled, now⟩ { map with enabled := enabled } where
  now := refines.now
  enabled := rfl
  defaultTtl := refines.defaultTtl
  written := refines.written
  kept := refines.kept

/-- As time passes, more of what was written last may be forgotten. -/
theorem advance (refines : Refines ⟨cache, now⟩ map) (time : Nat) :
    Refines ⟨cache, ((map.advance time).now : τ)⟩ (map.advance time) where
  now := rfl
  enabled := refines.enabled
  defaultTtl := refines.defaultTtl
  written := refines.written
  kept := by
    intro key last written fresh
    refine refines.kept written ?_
    have later : ¬ last.expiry ≤ map.now + time := of_decide_eq_false fresh
    exact decide_eq_false (by omega)

section Time

variable [LE τ] [Clock τ] [WholeClock τ]

/-- The moment until which a value written now is kept is the one that the map has for it. -/
theorem later_ttl (refines : Refines ⟨cache, now⟩ map) (ttl : Option Int) :
    Clock.later now ((ttl.map Int.cast).getD cache.defaultTtl) =
      .ok ((map.now + ttl.getD map.defaultTtl : Int) : τ) := by
  have moment : now = (map.now : τ) := refines.now
  have default : cache.defaultTtl = (map.defaultTtl : τ) := refines.defaultTtl
  have time : (ttl.map Int.cast).getD cache.defaultTtl =
      ((ttl.getD map.defaultTtl : Int) : τ) := by
    cases ttl with
    | none => exact default
    | some time => rfl
  rw [time, moment, Clock.later_cast]

/-- The moment at which a fetch ends is the one that the map then shows. -/
theorem run_onClock (refines : Refines ⟨cache, now⟩ map) (fetch : Fetch Nat α) :
    (fetch.onClock : Fetch τ α).run now =
      (((map.advance (fetch.duration.getD 0)).now : τ), fetch.outcome) := by
  have moment : now = (map.now : τ) := refines.now
  rw [moment, Fetch.run_onClock]
  rfl

variable [DecidableLE τ]

/-- Forgetting expired entries is allowed. -/
theorem forget (refines : Refines ⟨cache, now⟩ map) (forgets : cache.Forgets now other)
    (enabled : other.enabled = cache.enabled) (defaultTtl : other.defaultTtl = cache.defaultTtl) :
    Refines ⟨other, now⟩ map where
  now := refines.now
  enabled := enabled.trans refines.enabled
  defaultTtl := defaultTtl.trans refines.defaultTtl
  written := by
    intro key entry present
    rcases forgets key with same | ⟨gone, -⟩
    · exact refines.written (same.symm.trans present)
    · cases gone.symm.trans present
  kept := by
    intro key last written fresh
    have present := refines.kept written fresh
    rcases forgets key with same | ⟨-, expired⟩
    · exact same.trans present
    · -- The entry would be expired at the moment that both sides show.
      have moment : now = (map.now : τ) := refines.now
      rw [present, Option.all_some, moment, Entry.isExpired_onClock, fresh] at expired
      cases expired

theorem acquire (refines : Refines ⟨cache, now⟩ map) (key : String) :
    Refines ⟨(cache.acquire key).2, now⟩ map :=
  refines.forget (Cache.forgets_of_entries_eq (Cache.acquire_entries ..) now)
    (Cache.acquire_enabled ..) (Cache.acquire_defaultTtl ..)

theorem release (refines : Refines ⟨cache, now⟩ map) (key : String) :
    Refines ⟨cache.release key, now⟩ map :=
  refines.forget (Cache.forgets_of_entries_eq (Cache.release_entries ..) now)
    (Cache.release_enabled ..) (Cache.release_defaultTtl ..)

theorem get (refines : Refines ⟨cache, now⟩ map) (key : String) :
    Refines ⟨(cache.get now key).2, now⟩ map :=
  refines.forget (cache.forgets_get now key) (Cache.get_enabled ..) (Cache.get_defaultTtl ..)

/-- **A look-up finds what the map holds.** -/
theorem found (refines : Refines ⟨cache, now⟩ map) (key : String) :
    (cache.get now key).1 = map.held? key := by
  have moment : now = (map.now : τ) := refines.now
  have switch : cache.enabled = map.enabled := refines.enabled
  rw [Cache.found_eq, TimedMap.held?, switch, moment]
  congr 1
  cases present : cache.entries.find? key with
  | some entry =>
    obtain ⟨last, written, rfl⟩ := refines.written present
    rw [written, Option.filter_some, Option.filter_some, Entry.isExpired_onClock]
    cases last.isExpired map.now <;> rfl
  | none =>
    cases written : map.written? key with
    | none => rfl
    | some last =>
      cases expired : last.isExpired map.now with
      | true => simp [Option.filter_some, expired]
      | false => cases present.symm.trans (refines.kept written expired)

theorem set (refines : Refines ⟨cache, now⟩ map) (key : String) (value : Option α)
    (ttl : Option Int) :
    Refines ⟨(cache.set now key value (ttl.map Int.cast)).cache, now⟩
      (map.write key value ttl) := by
  have switch : cache.enabled = map.enabled := refines.enabled
  cases enabled : cache.enabled with
  | false =>
    rw [TimedMap.write, ← switch, enabled, if_neg Bool.false_ne_true, Cache.set, enabled]
    exact refines
  | true =>
    rw [TimedMap.write, ← switch, enabled, if_pos rfl]
    have swept : Refines ⟨cache.sweep now, now⟩ map :=
      refines.forget (cache.forgets_sweep now) rfl rfl
    refine swept.record (.write key value map.now (ttl.getD map.defaultTtl)) ?_ ?_ ?_
    · rw [Cache.set_eq]
      rfl
    · rw [Cache.set_eq]
      rfl
    · intro other
      rw [Cache.find?_set enabled (refines.later_ttl ttl)]
      by_cases same : other = key
      · simp [TimedMap.Effect.affects, TimedMap.Effect.written?, Entry.onClock, same]
      · simp [TimedMap.Effect.affects, same]

theorem settle (refines : Refines ⟨cache, now⟩ map) (key : String)
    (outcome : Except Failure (Option α)) (ttl : Option Int) :
    Refines ⟨(cache.settle now key outcome (ttl.map Int.cast)).cache, now⟩
      (map.settle key outcome ttl) := by
  cases outcome with
  | ok value => exact refines.set key value ttl
  | error failure => exact refines

/-! ### Fetching -/

theorem searched (refines : Refines ⟨cache, now⟩ map) (key : String) :
    Refines ⟨cache.searched now key, now⟩ map := ((refines.get key).acquire key).get key

/-- A call to fetch is one step of the map. -/
theorem getOrSet (refines : Refines ⟨cache, now⟩ map) (key : String) (fetch : Fetch Nat α)
    (ttl : Option Int) :
    let call := cache.getOrSet now key fetch.onClock (ttl.map Int.cast)
    Refines ⟨call.cache, call.now⟩ (map.step (.getOrSet key fetch ttl)) := by
  have looked := refines.found key
  rw [TimedMap.step]
  cases held : map.held? key with
  | some value =>
    rw [Cache.getOrSet_of_found (looked.trans held), Option.isSome_some, if_pos rfl]
    exact refines.get key
  | none =>
    rw [Option.isSome_none, if_neg Bool.false_ne_true]
    have missed := looked.trans held
    have switch : cache.enabled = map.enabled := refines.enabled
    cases enabled : cache.enabled with
    | false =>
      rw [Cache.getOrSet_of_disabled enabled, refines.run_onClock]
      have later := refines.advance (fetch.duration.getD 0)
      cases fetch.outcome with
      | error failure => exact later
      | ok value =>
        rw [TimedMap.settle, TimedMap.write]
        rw [if_neg (by simp [TimedMap.advance, ← switch, enabled])]
        exact later
    | true =>
      rw [Cache.getOrSet_of_missed enabled missed, refines.run_onClock]
      have later := (refines.searched key).advance (fetch.duration.getD 0)
      exact (later.settle key fetch.outcome ttl).release key

/-- A call fetches if the map holds nothing. -/
theorem fetched_getOrSet (refines : Refines ⟨cache, now⟩ map) (key : String)
    (fetch : Fetch τ α) (ttl : Option τ) :
    (cache.getOrSet now key fetch ttl).fetched = (map.held? key).isNone := by
  rw [Cache.fetched_getOrSet, refines.found key]

/-- A call gives what the map holds, or else what the fetch comes to. -/
theorem result_getOrSet (refines : Refines ⟨cache, now⟩ map) (key : String)
    (fetch : Fetch Nat α) (ttl : Option Int) :
    (cache.getOrSet now key fetch.onClock (ttl.map Int.cast)).result =
      match map.held? key with
      | some value => .ok (some value)
      | none => fetch.outcome := by
  have looked := refines.found key
  cases held : map.held? key with
  | some value => rw [Cache.getOrSet_of_found (looked.trans held)]
  | none =>
    have later := refines.advance (fetch.duration.getD 0)
    rw [Cache.result_getOrSet_of_missed (looked.trans held), refines.run_onClock]
    dsimp only
    -- The moment until which to keep what was fetched is a whole number, so it is never missing.
    rw [show Clock.later _ _ = _ from later.later_ttl ttl]
    cases fetch.outcome <;> cases cache.enabled <;> rfl

end Time

end Refines

variable [LE τ] [DecidableLE τ] [Clock τ]

/-! ## Runs -/

/-- The cache after an operation. A clock that cannot show the later moment stays as it is. -/
def step (state : ClockedCache τ α) : Cache.Operation α → ClockedCache τ α
  | .set key value ttl =>
    { state with cache := (state.cache.set state.now key value (ttl.map Int.cast)).cache }
  | .get key => { state with cache := (state.cache.get state.now key).2 }
  | .getOrSet key fetch ttl =>
    let fetched := state.cache.getOrSet state.now key fetch.onClock (ttl.map Int.cast)
    ⟨fetched.cache, fetched.now⟩
  | .delete key => { state with cache := state.cache.delete key }
  | .deletePattern pattern => { state with cache := (state.cache.deletePattern pattern).2 }
  | .invalidateLeaderboard => { state with cache := state.cache.invalidateLeaderboard.2 }
  | .clear => { state with cache := state.cache.clear }
  | .setEnabled enabled => { state with cache := state.cache.setEnabled enabled }
  | .advance time =>
    match Clock.later state.now ((time : Int) : τ) with
    | .ok later => { state with now := later }
    | .error _ => state

def after (state : ClockedCache τ α) (operations : List (Cache.Operation α)) :
    ClockedCache τ α :=
  operations.foldl step state

variable [WholeClock τ]

/-- One operation keeps the cache and the map together. -/
theorem Refines.step {state : ClockedCache τ α} {map : TimedMap α} (refines : Refines state map)
    (operation : Cache.Operation α) : Refines (state.step operation) (map.step operation) := by
  cases operation with
  | set key value ttl => exact refines.set key value ttl
  | get key => exact refines.get key
  | getOrSet key fetch ttl => exact refines.getOrSet key fetch ttl
  | delete key => exact refines.delete key
  | deletePattern pattern => exact refines.deletePattern pattern
  | invalidateLeaderboard => exact refines.deletePattern CacheKey.leaderboardPattern
  | clear => exact refines.clear
  | setEnabled enabled => exact refines.setEnabled enabled
  | advance time =>
    have moment : state.now = (map.now : τ) := refines.now
    rw [ClockedCache.step, moment, Clock.later_cast]
    exact refines.advance time

/-- **The cache refines a timed map.** Operations keep the cache and the map together. -/
theorem Refines.after {state : ClockedCache τ α} {map : TimedMap α} (refines : Refines state map)
    (operations : List (Cache.Operation α)) :
    Refines (state.after operations) (map.after operations) := by
  induction operations generalizing state map with
  | nil => exact refines
  | cons operation operations ih => exact ih (refines.step operation)

/-- **Look-ups and fetches show the timed map.** After any operations on an empty cache, a look-up
finds a value exactly if the map holds it, and a call fetches exactly if the map holds none. A call
that fetches gives what the fetch comes to, and any other the value that is held. -/
theorem observed_after (enabled : Bool) (defaultTtl now : Int)
    (operations : List (Cache.Operation α)) (key : String) :
    let state : ClockedCache τ α := (start enabled defaultTtl now).after operations
    let map : TimedMap α := (TimedMap.start enabled defaultTtl now).after operations
    (∀ value, (state.cache.get state.now key).1 = some value ↔ map.Holds key value) ∧
      ∀ (fetch : Fetch Nat α) (ttl : Option Int),
        let call := state.cache.getOrSet state.now key fetch.onClock (ttl.map Int.cast)
        (call.fetched = true ↔ ∀ value, ¬ map.Holds key value) ∧
          (call.fetched = true → call.result = fetch.outcome) ∧
          ∀ value, map.Holds key value → call.result = .ok (some value) := by
  intro state map
  have refines : Refines state map := (Refines.start enabled defaultTtl now).after operations
  clear_value state map
  refine ⟨fun value => ?_, fun fetch ttl => ⟨?_, fun fetches => ?_, fun value holds => ?_⟩⟩
  · rw [refines.found key, TimedMap.held?_eq_some_iff]
  · rw [refines.fetched_getOrSet, Option.isNone_iff_eq_none, TimedMap.held?_eq_none_iff]
  · rw [refines.fetched_getOrSet, Option.isNone_iff_eq_none] at fetches
    rw [refines.result_getOrSet, fetches]
  · rw [refines.result_getOrSet, TimedMap.held?_eq_some_iff.2 holds]

/-- A value expires, and is swept out when the next one is written. -/
def sweepingRun : List (Cache.Operation String) :=
  [.set "a" (some "first") (some 1), .advance 1, .set "b" (some "second") none]

/-- The map still has both writes when the cache has one entry, and neither shows more than the
other. -/
theorem observed_after_sweep :
    let state : ClockedCache Number String := (start true 30 1000).after sweepingRun
    let map : TimedMap String := (TimedMap.start true 30 1000).after sweepingRun
    state.cache.keys = ["b"] ∧ map.effects.length = 2 ∧
      (state.cache.get state.now "b").1 = some "second" ∧
      (state.cache.getOrSet state.now "a" (Fetch.onClock ⟨.ok none, some 2⟩) none).fetched =
        true :=
  ⟨by decide, by decide, ((observed_after true 30 1000 sweepingRun "b").1 "second").2
      ⟨rfl, 1001, 30, rfl, by decide⟩,
    ((observed_after true 30 1000 sweepingRun "a").2 ⟨.ok none, some 2⟩ none).1.2 (by
      rintro value ⟨-, moment, ttl, last, fresh⟩
      cases last
      cases fresh)⟩

end ClockedCache

end ArenaStandings
