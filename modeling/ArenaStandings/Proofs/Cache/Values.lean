import ArenaStandings.Proofs.Cache.Calls

/-!
# The cache does not look at what it keeps

All values that a cache keeps may be changed in one way, with their keys and moments as they are
(`Cache.map`). This commutes with everything that is done to a cache: with looking up and keeping,
with the slots, with removing pages, and so with fetching through the cache (`Cache.getOrSet_map`).
Two caches that differ in a part of their values only therefore answer alike but for this part, and
go on to differ in nothing else.
-/

namespace ArenaStandings

namespace Table

variable {κ α β : Type}

/-- The table with every value changed. -/
def map (change : α → β) (table : Table κ α) : Table κ β where
  rows := table.rows.map fun row => (row.1, change row.2)
  keys_nodup := by
    rw [List.map_map]
    exact table.keys_nodup

variable (change : α → β) (table : Table κ α)

@[simp] theorem keys_map : (table.map change).keys = table.keys := List.map_map

@[simp] theorem size_map : (table.map change).size = table.size := List.length_map _

theorem filter_map (test : κ → β → Bool) :
    (table.map change).filter test =
      (table.filter fun key value => test key (change value)).map change :=
  eq_of_rows_eq List.filter_map

variable [DecidableEq κ] (key : κ)

@[simp] theorem find?_map : (table.map change).find? key = (table.find? key).map change := by
  unfold find? map
  dsimp only
  generalize table.rows = rows
  induction rows with
  | nil => rfl
  | cons row rows ih =>
    rw [List.map_cons, lookupRows, lookupRows, ih]
    split <;> rfl

theorem erase_map : (table.map change).erase key = (table.erase key).map change :=
  table.filter_map change _

theorem insert_map (value : α) :
    (table.map change).insert key (change value) = (table.insert key value).map change := by
  apply eq_of_rows_eq
  unfold insert map
  dsimp only
  generalize table.rows = rows
  induction rows with
  | nil => rfl
  | cons row rows ih =>
    rw [List.map_cons, insertRows, insertRows, ih]
    split <;> rfl

end Table

variable {τ α β : Type}

/-- The entry with its value changed, if it has one. -/
def Entry.map (change : α → β) (entry : Entry τ α) : Entry τ β :=
  ⟨entry.value.map change, entry.expiry⟩

/-- The fetch that comes to the changed value. -/
def Fetch.map (change : α → β) (fetch : Fetch τ α) : Fetch τ β :=
  ⟨fetch.outcome.map (Option.map change), fetch.duration⟩

namespace Cache

/-- The cache with all its values changed. -/
def map (change : α → β) (cache : Cache τ α) : Cache τ β :=
  { cache with entries := cache.entries.map (Entry.map change) }

end Cache

/-- The write to the cache with all its values changed. -/
def Written.map (change : α → β) (written : Written τ α) : Written τ β :=
  { written with cache := written.cache.map change }

/-- The call through the cache with all its values changed. -/
def Fetched.map (change : α → β) (fetched : Fetched τ α) : Fetched τ β :=
  { fetched with
    result := fetched.result.map (Option.map change)
    cache := fetched.cache.map change }

theorem Fetch.run_map [Clock τ] (change : α → β) (fetch : Fetch τ α) (now : τ) :
    (fetch.map change).run now =
      ((fetch.run now).1, (fetch.run now).2.map (Option.map change)) := by
  unfold run map
  dsimp only
  split
  · rfl
  · split <;> rfl

namespace Cache

variable (change : α → β) (cache : Cache τ α) (key : String)

@[simp] theorem keys_map : (cache.map change).keys = cache.keys := cache.entries.keys_map _

theorem acquire_map :
    (cache.map change).acquire key = ((cache.acquire key).1, (cache.acquire key).2.map change) := by
  unfold acquire map
  dsimp only
  split <;> rfl

theorem release_map : (cache.map change).release key = (cache.release key).map change := by
  unfold release map
  dsimp only
  split
  · rfl
  · split <;> rfl

theorem invalidateLeaderboard_map :
    (cache.map change).invalidateLeaderboard =
      (cache.invalidateLeaderboard.1, cache.invalidateLeaderboard.2.map change) := by
  unfold invalidateLeaderboard deletePattern
  rw [keys_map]
  unfold map
  dsimp only
  rw [Table.filter_map]

variable [LE τ] [DecidableLE τ] (now : τ)

theorem get_map :
    (cache.map change).get now key =
      ((cache.get now key).1.map change, (cache.get now key).2.map change) := by
  unfold get map
  dsimp only
  rw [Table.find?_map, Table.erase_map]
  split
  · rfl
  · cases cache.entries.find? key with
    | none => rfl
    | some entry =>
      change (if entry.isExpired now then _ else _) = _
      dsimp only
      split <;> rfl

theorem sweep_map : (cache.map change).sweep now = (cache.sweep now).map change := by
  unfold sweep map
  dsimp only
  rw [Table.filter_map]
  rfl

theorem sweepLines_map : (cache.map change).sweepLines now = cache.sweepLines now := by
  unfold sweepLines
  rw [sweep_map]
  unfold map
  dsimp only
  rw [Table.size_map, Table.size_map]

variable [Clock τ]

theorem set_map (value : Option α) (ttl : Option τ) :
    (cache.map change).set now key (value.map change) ttl =
      (cache.set now key value ttl).map change := by
  unfold set
  rw [sweep_map, sweepLines_map]
  unfold map
  dsimp only
  split
  · rfl
  · cases Clock.later now (ttl.getD cache.defaultTtl) with
    | error failure => rfl
    | ok expiry =>
      have inserted :=
        (cache.sweep now).entries.insert_map (Entry.map change) key ⟨value, expiry⟩
      dsimp only
      rw [show (⟨value.map change, expiry⟩ : Entry τ β) =
        Entry.map change ⟨value, expiry⟩ from rfl, inserted]
      rfl

theorem settle_map (outcome : Except Failure (Option α)) (ttl : Option τ) :
    (cache.map change).settle now key (outcome.map (Option.map change)) ttl =
      (cache.settle now key outcome ttl).map change := by
  cases outcome with
  | error failure => rfl
  | ok value => exact cache.set_map change key now value ttl

/-- **Fetching through a cache does not look at values.** To change all values and then to fetch the
changed value comes to the same as to fetch first and to change then. -/
theorem getOrSet_map (fetch : Fetch τ α) (ttl : Option τ) :
    (cache.map change).getOrSet now key (fetch.map change) ttl =
      (cache.getOrSet now key fetch ttl).map change := by
  have looked := cache.get_map change key now
  cases enabled : cache.enabled with
  | false =>
    have disabled' : (cache.map change).enabled = false := enabled
    rw [getOrSet_of_disabled disabled', getOrSet_of_disabled enabled, fetch.run_map]
    rfl
  | true =>
    have enabled' : (cache.map change).enabled = true := enabled
    cases found : (cache.get now key).1 with
    | some value =>
      have found' : ((cache.map change).get now key).1 = some (change value) := by
        rw [looked, found]
        rfl
      rw [getOrSet_of_found found', getOrSet_of_found found, looked]
      rfl
    | none =>
      have missed : ((cache.map change).get now key).1 = none := by
        rw [looked, found]
        rfl
      have searched : (cache.map change).searched now key =
          (cache.searched now key).map change := by
        rw [Cache.searched, looked, acquire_map, get_map]
        rfl
      rw [getOrSet_of_missed enabled' missed, getOrSet_of_missed enabled found, searched,
        fetch.run_map, settle_map]
      dsimp only [Written.map, Fetched.map]
      rw [release_map]
      cases ((cache.searched now key).settle (fetch.run now).1 key (fetch.run now).2 ttl).result <;>
        rfl

end Cache

end ArenaStandings
