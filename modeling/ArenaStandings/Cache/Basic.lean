import ArenaStandings.Cache.Key
import ArenaStandings.Log
import ArenaStandings.Table

/-!
# The cache

A `Cache` keeps values under keys, each until a moment. A value may be nothing; nothing is kept too,
but is never found. An expired entry stays until it is looked up or until the next write, which
sweeps all expired entries out. A cache that is switched off finds and keeps nothing, but entries
can still be removed from it.

For every key that is being fetched the cache has a slot: the number of the lock that the callers of
the key share, and how many callers hold it or wait for it. Time is any type with an order and with
moments that come later by some time.
-/

namespace ArenaStandings

/-- The moment that comes later by some time, unless it is too large to be written down. -/
class Clock (τ : Type) where
  later? : τ → τ → Option τ

instance : Clock Int := ⟨fun moment time => some (moment + time)⟩

instance : Clock Number := ⟨Number.add?⟩

/-- The moment that comes later by some time; that there is none is a failure. -/
def Clock.later {τ : Type} [Clock τ] (moment time : τ) : Except Failure τ :=
  match later? moment time with
  | some next => .ok next
  | none => .error .integerTooLarge

/-- A kept value and the moment from which it is no longer found. -/
structure Entry (τ α : Type) where
  value : Option α
  expiry : τ

/-- Is an entry no longer found at a moment? -/
def Entry.isExpired {τ α : Type} [LE τ] [DecidableLE τ] (entry : Entry τ α)
    (now : τ) : Bool :=
  entry.expiry ≤ now

/-- The lock of a key and the number of callers that hold it or wait for it. -/
structure Slot where
  lock : Nat
  users : Nat
  deriving DecidableEq, Repr

/-- Values under keys, each until a moment, and a slot for each key that is being fetched. -/
structure Cache (τ α : Type) where
  entries : Table String (Entry τ α)
  slots : Table String Slot
  /-- The number that the next lock gets. -/
  nextLock : Nat
  enabled : Bool
  /-- How long a value is kept unless a write says otherwise. -/
  defaultTtl : τ

/-- What a write comes to: the cache after it, whether it failed, and what it logs. -/
structure Written (τ α : Type) where
  cache : Cache τ α
  result : Except Failure Unit
  lines : List LogLine

namespace Cache

variable {τ α : Type}

def empty (enabled : Bool) (defaultTtl : τ) : Cache τ α :=
  ⟨.empty, .empty, 0, enabled, defaultTtl⟩

/-- The keys of all entries, expired ones included. -/
def keys (cache : Cache τ α) : List String := cache.entries.keys

/-- The keys that are being fetched. -/
def pending (cache : Cache τ α) : List String := cache.slots.keys

/-! ## Entries -/

section Time

variable [LE τ] [DecidableLE τ]

/-- The value that is found under a key at a moment. An entry that is found expired is removed. -/
def get (cache : Cache τ α) (now : τ) (key : String) : Option α × Cache τ α :=
  if !cache.enabled then (none, cache)
  else match cache.entries.find? key with
    | none => (none, cache)
    | some entry =>
      if entry.isExpired now then (none, { cache with entries := cache.entries.erase key })
      else (entry.value, cache)

/-- Remove all entries that are expired at a moment. -/
def sweep (cache : Cache τ α) (now : τ) : Cache τ α :=
  { cache with entries := cache.entries.filter fun _ entry => !entry.isExpired now }

/-- What is logged when a sweep removes something. -/
def sweepLines (cache : Cache τ α) (now : τ) : List LogLine :=
  let removed := cache.entries.size - (cache.sweep now).entries.size
  if removed = 0 then []
  else [.debug ("Purged " ++ toString removed ++ " expired cache entries")]

variable [Clock τ]

/-- Keep a value under a key from a moment on, for a given time or the default one, after sweeping.
A cache that is switched off keeps nothing, and a value without a last moment is not kept. -/
def set (cache : Cache τ α) (now : τ) (key : String) (value : Option α) (ttl : Option τ) :
    Written τ α :=
  if !cache.enabled then ⟨cache, .ok (), []⟩
  else
    let swept := cache.sweep now
    let lines := cache.sweepLines now
    match Clock.later now (ttl.getD cache.defaultTtl) with
    | .error failure => ⟨swept, .error failure, lines⟩
    | .ok expiry =>
      ⟨{ swept with entries := swept.entries.insert key ⟨value, expiry⟩ }, .ok (), lines⟩

end Time

def delete (cache : Cache τ α) (key : String) : Cache τ α :=
  { cache with entries := cache.entries.erase key }

/-- Remove the entries whose key fits a pattern, and say how many they were. -/
def deletePattern (cache : Cache τ α) (pattern : String) : Nat × Cache τ α :=
  ((cache.keys.filter (Glob.fits pattern)).length,
    { cache with entries := cache.entries.filter fun key _ => !Glob.fits pattern key })

/-- Remove the pages of the leaderboard, and say how many they were. -/
def invalidateLeaderboard (cache : Cache τ α) : Nat × Cache τ α :=
  cache.deletePattern CacheKey.leaderboardPattern

/-- What is logged when the pages of the leaderboard are removed. -/
def invalidationLine (removed : Nat) : LogLine :=
  .info ("Invalidated " ++ toString removed ++ " leaderboard page(s)")

def clear (cache : Cache τ α) : Cache τ α := { cache with entries := .empty }

def setEnabled (cache : Cache τ α) (enabled : Bool) : Cache τ α :=
  { cache with enabled := enabled }

/-! ## Slots -/

/-- Join the callers of a key: the lock that they share is the one in the slot, or a new one. -/
def acquire (cache : Cache τ α) (key : String) : Nat × Cache τ α :=
  match cache.slots.find? key with
  | some slot =>
    (slot.lock, { cache with slots := cache.slots.insert key ⟨slot.lock, slot.users + 1⟩ })
  | none =>
    (cache.nextLock,
      { cache with
        slots := cache.slots.insert key ⟨cache.nextLock, 1⟩
        nextLock := cache.nextLock + 1 })

/-- Leave the callers of a key; the last one takes the slot away. -/
def release (cache : Cache τ α) (key : String) : Cache τ α :=
  match cache.slots.find? key with
  | none => cache
  | some slot =>
    if slot.users ≤ 1 then { cache with slots := cache.slots.erase key }
    else { cache with slots := cache.slots.insert key ⟨slot.lock, slot.users - 1⟩ }

end Cache

end ArenaStandings
