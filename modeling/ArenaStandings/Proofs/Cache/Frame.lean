import ArenaStandings.Cache.Fetch

/-!
# What the operations of the cache leave alone

Entries and slots are separate. Looking up, writing, keeping and removing change entries only
(`Cache.get_slots`, `Cache.settle_slots`, …); joining and leaving the callers of a key change
slots only, and of these only the one of the key (`Cache.find?_acquire`, `Cache.find?_release`). A
caller who comes and leaves alone leaves the slots as they were (`Cache.slots_release_of_acquired`).
-/

namespace ArenaStandings

namespace Cache

variable {τ α : Type}

section Time

variable [LE τ] [DecidableLE τ]

/-- A look-up changes entries only. -/
theorem get_eq (cache : Cache τ α) (now : τ) (key : String) :
    (cache.get now key).2 = { cache with entries := (cache.get now key).2.entries } := by
  unfold get
  split
  · rfl
  · split
    · rfl
    · split <;> rfl

@[simp] theorem get_slots (cache : Cache τ α) (now : τ) (key : String) :
    (cache.get now key).2.slots = cache.slots := by
  rw [get_eq]

@[simp] theorem get_nextLock (cache : Cache τ α) (now : τ) (key : String) :
    (cache.get now key).2.nextLock = cache.nextLock := by
  rw [get_eq]

@[simp] theorem get_enabled (cache : Cache τ α) (now : τ) (key : String) :
    (cache.get now key).2.enabled = cache.enabled := by
  rw [get_eq]

@[simp] theorem get_defaultTtl (cache : Cache τ α) (now : τ) (key : String) :
    (cache.get now key).2.defaultTtl = cache.defaultTtl := by
  rw [get_eq]

variable [Clock τ]

/-- A write changes entries only. -/
theorem set_eq (cache : Cache τ α) (now : τ) (key : String) (value : Option α)
    (ttl : Option τ) :
    (cache.set now key value ttl).cache =
      { cache with entries := (cache.set now key value ttl).cache.entries } := by
  unfold set
  split
  · rfl
  · dsimp only
    split <;> rfl

/-- Keeping what a fetch came to changes entries only. -/
theorem settle_eq (cache : Cache τ α) (now : τ) (key : String)
    (outcome : Except Failure (Option α)) (ttl : Option τ) :
    (cache.settle now key outcome ttl).cache =
      { cache with entries := (cache.settle now key outcome ttl).cache.entries } := by
  cases outcome with
  | ok value => exact cache.set_eq now key value ttl
  | error failure => rfl

@[simp] theorem settle_slots (cache : Cache τ α) (now : τ) (key : String)
    (outcome : Except Failure (Option α)) (ttl : Option τ) :
    (cache.settle now key outcome ttl).cache.slots = cache.slots := by
  rw [settle_eq]

@[simp] theorem settle_nextLock (cache : Cache τ α) (now : τ) (key : String)
    (outcome : Except Failure (Option α)) (ttl : Option τ) :
    (cache.settle now key outcome ttl).cache.nextLock = cache.nextLock := by
  rw [settle_eq]

@[simp] theorem settle_enabled (cache : Cache τ α) (now : τ) (key : String)
    (outcome : Except Failure (Option α)) (ttl : Option τ) :
    (cache.settle now key outcome ttl).cache.enabled = cache.enabled := by
  rw [settle_eq]

@[simp] theorem settle_defaultTtl (cache : Cache τ α) (now : τ) (key : String)
    (outcome : Except Failure (Option α)) (ttl : Option τ) :
    (cache.settle now key outcome ttl).cache.defaultTtl = cache.defaultTtl := by
  rw [settle_eq]

end Time

/-! ## Slots -/

/-- The lock of a key is the one in its slot, or the next one if it has none. -/
theorem acquire_lock (cache : Cache τ α) (key : String) :
    (cache.acquire key).1 = (cache.slots.find? key).elim cache.nextLock Slot.lock := by
  unfold acquire
  split <;> rename_i found <;> simp [found]

/-- Joining the callers of a key adds one user to its slot and touches no other. -/
theorem find?_acquire (cache : Cache τ α) (key other : String) :
    (cache.acquire key).2.slots.find? other =
      if other = key then
        some ⟨(cache.acquire key).1, (cache.slots.find? key).elim 0 Slot.users + 1⟩
      else cache.slots.find? other := by
  unfold acquire
  split <;> rename_i found <;> simp [found, Table.find?_insert]

/-- A lock that is given out has been issued, and locks that were issued stay so. -/
theorem acquire_nextLock (cache : Cache τ α) (key : String) :
    (cache.acquire key).2.nextLock =
      if (cache.slots.find? key).isSome then cache.nextLock else cache.nextLock + 1 := by
  unfold acquire
  split <;> rename_i found <;> simp [found]

@[simp] theorem acquire_entries (cache : Cache τ α) (key : String) :
    (cache.acquire key).2.entries = cache.entries := by
  unfold acquire
  split <;> rfl

@[simp] theorem acquire_enabled (cache : Cache τ α) (key : String) :
    (cache.acquire key).2.enabled = cache.enabled := by
  unfold acquire
  split <;> rfl

@[simp] theorem acquire_defaultTtl (cache : Cache τ α) (key : String) :
    (cache.acquire key).2.defaultTtl = cache.defaultTtl := by
  unfold acquire
  split <;> rfl

/-- Leaving the callers of a key takes one user from its slot, the last one takes the slot away, and
no other slot is touched. -/
theorem find?_release (cache : Cache τ α) {key : String} {slot : Slot}
    (found : cache.slots.find? key = some slot) (other : String) :
    (cache.release key).slots.find? other =
      if other = key then if slot.users ≤ 1 then none else some ⟨slot.lock, slot.users - 1⟩
      else cache.slots.find? other := by
  simp only [release, found]
  split
  · rw [Table.find?_erase]
  · rw [Table.find?_insert]

/-- The one caller of a key takes the slot away that it made. -/
theorem slots_release_of_acquired {cache other : Cache τ α} {key : String}
    (idle : cache.pending = []) (joined : other.slots = (cache.acquire key).2.slots) :
    (other.release key).slots = cache.slots := by
  have noKeys : cache.slots.keys = [] := idle
  have vacant : cache.slots.find? key = none := by
    rw [Table.find?_eq_none_iff, noKeys]
    exact List.not_mem_nil
  have acquired : other.slots = cache.slots.insert key ⟨cache.nextLock, 1⟩ := by
    rw [joined]
    unfold acquire
    rw [vacant]
  have present : other.slots.find? key = some ⟨cache.nextLock, 1⟩ := by
    rw [acquired, Table.find?_insert, if_pos rfl]
  have released : (other.release key).slots = other.slots.erase key := by
    unfold release
    rw [present]
    rfl
  have left : (other.release key).slots.keys = [] := by
    rw [released, Table.keys_erase, acquired, Table.keys_insert, noKeys]
    simp
  rw [Table.keys_eq_nil_iff.1 left, Table.keys_eq_nil_iff.1 noKeys]

/-- Leaving the callers of a key changes slots only. -/
theorem release_eq (cache : Cache τ α) (key : String) :
    cache.release key = { cache with slots := (cache.release key).slots } := by
  unfold release
  split
  · rfl
  · split <;> rfl

@[simp] theorem release_entries (cache : Cache τ α) (key : String) :
    (cache.release key).entries = cache.entries := by
  rw [release_eq]

@[simp] theorem release_nextLock (cache : Cache τ α) (key : String) :
    (cache.release key).nextLock = cache.nextLock := by
  rw [release_eq]

@[simp] theorem release_enabled (cache : Cache τ α) (key : String) :
    (cache.release key).enabled = cache.enabled := by
  rw [release_eq]

@[simp] theorem release_defaultTtl (cache : Cache τ α) (key : String) :
    (cache.release key).defaultTtl = cache.defaultTtl := by
  rw [release_eq]

end Cache

end ArenaStandings
