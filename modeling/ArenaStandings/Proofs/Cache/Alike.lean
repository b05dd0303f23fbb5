import ArenaStandings.Proofs.Cache.Refinement
import Mathlib.Order.Defs.Unbundled

/-!
# Caches that are alike

A cache with its clock can be used on any clock, with moments and times of the clock's own kind
(`Cache.Use`); the operations on a clock of whole numbers are uses (`ClockedCache.step_eq_use`).
What is seen of a run of uses is what its look-ups find, what its calls to fetch give, and which of
these calls fetched (`ClockedCache.sights`).

What a cache shows depends on its live entries only. Caches are `Cache.Alike` at a moment if they
have the same ones then, whatever they have that is expired. Once expired an entry stays so, and
every use does the same to the live entries of both: so on a clock that does not go back, caches
that are alike show the same in every run (`Cache.Alike.sights`).
-/

namespace ArenaStandings

/-- What is asked of a cache, or happens to it, on any clock. -/
inductive Cache.Use (τ α : Type)
  | get (key : String)
  | set (key : String) (value : Option α) (ttl : Option τ)
  | getOrSet (key : String) (fetch : Fetch τ α) (ttl : Option τ)
  | delete (key : String)
  | deletePattern (pattern : String)
  | clear
  | setEnabled (enabled : Bool)
  /-- Time passes. -/
  | advance (time : τ)

/-- What a use shows. -/
inductive Cache.Sight (α : Type)
  /-- A look-up finds a value or none. -/
  | found (value : Option α)
  /-- A call to fetch gives a value or fails, and may have fetched. -/
  | given (result : Except Failure (Option α)) (fetched : Bool)
  | nothing

/-- The use that an operation is on a clock of whole numbers. -/
def Cache.Operation.onClock {τ α : Type} [IntCast τ] : Cache.Operation α → Cache.Use τ α
  | .set key value ttl => .set key value (ttl.map Int.cast)
  | .get key => .get key
  | .getOrSet key fetch ttl => .getOrSet key fetch.onClock (ttl.map Int.cast)
  | .delete key => .delete key
  | .deletePattern pattern => .deletePattern pattern
  | .invalidateLeaderboard => .deletePattern CacheKey.leaderboardPattern
  | .clear => .clear
  | .setEnabled enabled => .setEnabled enabled
  | .advance time => .advance ((time : Int) : τ)

namespace ClockedCache

variable {τ α : Type} [LE τ] [DecidableLE τ] [Clock τ]

/-- The cache after a use. A clock that cannot show the later moment stays as it is. -/
def use (state : ClockedCache τ α) : Cache.Use τ α → ClockedCache τ α
  | .get key => { state with cache := (state.cache.get state.now key).2 }
  | .set key value ttl => { state with cache := (state.cache.set state.now key value ttl).cache }
  | .getOrSet key fetch ttl =>
    let call := state.cache.getOrSet state.now key fetch ttl
    ⟨call.cache, call.now⟩
  | .delete key => { state with cache := state.cache.delete key }
  | .deletePattern pattern => { state with cache := (state.cache.deletePattern pattern).2 }
  | .clear => { state with cache := state.cache.clear }
  | .setEnabled enabled => { state with cache := state.cache.setEnabled enabled }
  | .advance time =>
    match Clock.later state.now time with
    | .ok later => { state with now := later }
    | .error _ => state

/-- What a use shows. Only look-ups and calls to fetch show something. -/
def sight (state : ClockedCache τ α) : Cache.Use τ α → Cache.Sight α
  | .get key => .found (state.cache.get state.now key).1
  | .getOrSet key fetch ttl =>
    let call := state.cache.getOrSet state.now key fetch ttl
    .given call.result call.fetched
  | _ => .nothing

/-- An operation on a clock of whole numbers is a use. -/
theorem step_eq_use [IntCast τ] (state : ClockedCache τ α) (operation : Cache.Operation α) :
    state.step operation = state.use operation.onClock := by
  cases operation <;> rfl

/-! ## Runs -/

def afterUses (state : ClockedCache τ α) (uses : List (Cache.Use τ α)) : ClockedCache τ α :=
  uses.foldl use state

/-- What the uses of a run show, one after the other. -/
def sights (state : ClockedCache τ α) : List (Cache.Use τ α) → List (Cache.Sight α)
  | [] => []
  | use :: uses => state.sight use :: (state.use use).sights uses

/-- The clock does not go back while the cache is used. -/
def RunsForward (state : ClockedCache τ α) : List (Cache.Use τ α) → Prop
  | [] => True
  | use :: uses => state.now ≤ (state.use use).now ∧ (state.use use).RunsForward uses

end ClockedCache

namespace Cache

variable {τ α : Type} [LE τ] [DecidableLE τ] {cache first second third : Cache τ α}
  {now moment : τ}

/-! ## Live entries -/

/-- A look-up finds the value of the live entry. -/
theorem found_eq_live? (cache : Cache τ α) (now : τ) (key : String) :
    (cache.get now key).1 =
      if cache.enabled then (cache.live? now key).bind Entry.value else none :=
  cache.found_eq now key

/-- What is live later was live before. -/
theorem live?_of_le [IsTrans τ (· ≤ ·)] (forward : now ≤ moment) (cache : Cache τ α)
    (key : String) :
    cache.live? moment key =
      (cache.live? now key).filter fun entry => !entry.isExpired moment := by
  rw [live?, live?, Option.filter_filter]
  congr 1
  funext entry
  by_cases expired : entry.expiry ≤ now
  · have stays : entry.expiry ≤ moment := Trans.trans expired forward
    simp [Entry.isExpired, stays]
  · simp [Entry.isExpired, expired]

theorem live?_delete (cache : Cache τ α) (now : τ) (key other : String) :
    (cache.delete key).live? now other = if other = key then none else cache.live? now other := by
  unfold live? delete
  rw [Table.find?_erase]
  split <;> rfl

theorem live?_deletePattern (cache : Cache τ α) (now : τ) (pattern key : String) :
    (cache.deletePattern pattern).2.live? now key =
      if Glob.fits pattern key then none else cache.live? now key := by
  unfold live? deletePattern
  rw [Table.find?_filter]
  cases Glob.fits pattern key <;> cases cache.entries.find? key <;> rfl

/-- A write to a cache that is switched on is live unless it is expired at once, and does nothing
else to what is live. -/
theorem live?_set [Clock τ] (enabled : cache.enabled = true) {expiry : τ} {ttl : Option τ}
    (moment : Clock.later now (ttl.getD cache.defaultTtl) = .ok expiry) (key : String)
    (value : Option α) (other : String) :
    (cache.set now key value ttl).cache.live? now other =
      if other = key then
        (some (⟨value, expiry⟩ : Entry τ α)).filter fun entry => !entry.isExpired now
      else cache.live? now other := by
  rw [live?, find?_set enabled moment]
  by_cases same : other = key
  · rw [if_pos same, if_pos same]
  · rw [if_neg same, if_neg same]
    exact (cache.forgets_sweep now).live?_eq other

/-! ## Caches that are alike -/

/-- Two caches are alike at a moment: they are switched on or off alike, keep values for the same
time unless they are told otherwise, and have the same live entries. -/
structure Alike (now : τ) (first second : Cache τ α) : Prop where
  enabled : first.enabled = second.enabled
  defaultTtl : first.defaultTtl = second.defaultTtl
  live : ∀ key, first.live? now key = second.live? now key

namespace Alike

theorem refl (cache : Cache τ α) (now : τ) : Alike now cache cache :=
  ⟨rfl, rfl, fun _ => rfl⟩

theorem symm (alike : Alike now first second) : Alike now second first where
  enabled := alike.enabled.symm
  defaultTtl := alike.defaultTtl.symm
  live := fun key => (alike.live key).symm

theorem trans (alike : Alike now first second) (alike' : Alike now second third) :
    Alike now first third where
  enabled := alike.enabled.trans alike'.enabled
  defaultTtl := alike.defaultTtl.trans alike'.defaultTtl
  live := fun key => (alike.live key).trans (alike'.live key)

/-- A cache that has only forgotten expired entries is alike to what it was. -/
theorem of_forgets (forgets : second.Forgets now first) (enabled : first.enabled = second.enabled)
    (defaultTtl : first.defaultTtl = second.defaultTtl) : Alike now first second :=
  ⟨enabled, defaultTtl, forgets.live?_eq⟩

/-- As time passes, caches that are alike stay so. -/
theorem later [IsTrans τ (· ≤ ·)] (alike : Alike now first second) (forward : now ≤ moment) :
    Alike moment first second where
  enabled := alike.enabled
  defaultTtl := alike.defaultTtl
  live := by
    intro key
    rw [live?_of_le forward, live?_of_le forward, alike.live key]

/-- **A look-up finds the same.** -/
theorem found (alike : Alike now first second) (key : String) :
    (first.get now key).1 = (second.get now key).1 := by
  rw [found_eq_live?, found_eq_live?, alike.enabled, alike.live]

theorem get_self (cache : Cache τ α) (now : τ) (key : String) :
    Alike now (cache.get now key).2 cache :=
  of_forgets (cache.forgets_get now key) (get_enabled ..) (get_defaultTtl ..)

theorem searched_self (cache : Cache τ α) (now : τ) (key : String) :
    Alike now (cache.searched now key) cache :=
  of_forgets (cache.forgets_searched now key) (searched_enabled ..) (searched_defaultTtl ..)

theorem release_self (cache : Cache τ α) (now : τ) (key : String) :
    Alike now (cache.release key) cache :=
  of_forgets (forgets_of_entries_eq (release_entries ..) now) (release_enabled ..)
    (release_defaultTtl ..)

/-! ### What is done to both -/

theorem get (alike : Alike now first second) (key : String) :
    Alike now (first.get now key).2 (second.get now key).2 :=
  (get_self first now key).trans (alike.trans (get_self second now key).symm)

theorem searched (alike : Alike now first second) (key : String) :
    Alike now (first.searched now key) (second.searched now key) :=
  (searched_self first now key).trans (alike.trans (searched_self second now key).symm)

theorem release (alike : Alike now first second) (key : String) :
    Alike now (first.release key) (second.release key) :=
  (release_self first now key).trans (alike.trans (release_self second now key).symm)

theorem delete (alike : Alike now first second) (key : String) :
    Alike now (first.delete key) (second.delete key) where
  enabled := alike.enabled
  defaultTtl := alike.defaultTtl
  live := by
    intro other
    rw [live?_delete, live?_delete, alike.live]

theorem deletePattern (alike : Alike now first second) (pattern : String) :
    Alike now (first.deletePattern pattern).2 (second.deletePattern pattern).2 where
  enabled := alike.enabled
  defaultTtl := alike.defaultTtl
  live := by
    intro key
    rw [live?_deletePattern, live?_deletePattern, alike.live]

theorem clear (alike : Alike now first second) : Alike now first.clear second.clear where
  enabled := alike.enabled
  defaultTtl := alike.defaultTtl
  live := fun _ => rfl

theorem setEnabled (alike : Alike now first second) (enabled : Bool) :
    Alike now (first.setEnabled enabled) (second.setEnabled enabled) where
  enabled := rfl
  defaultTtl := alike.defaultTtl
  live := alike.live

variable [Clock τ]

theorem set (alike : Alike now first second) (key : String) (value : Option α) (ttl : Option τ) :
    Alike now (first.set now key value ttl).cache (second.set now key value ttl).cache where
  enabled := by
    rw [set_eq first, set_eq second]
    exact alike.enabled
  defaultTtl := by
    rw [set_eq first, set_eq second]
    exact alike.defaultTtl
  live := by
    intro other
    have switch := alike.enabled
    cases enabled : second.enabled with
    | false =>
      rw [enabled] at switch
      unfold Cache.set
      rw [switch, enabled]
      exact alike.live other
    | true =>
      rw [enabled] at switch
      cases expires : Clock.later now (ttl.getD second.defaultTtl) with
      | error failure =>
        -- Nothing is written, but both are swept.
        unfold Cache.set
        rw [alike.defaultTtl, switch, enabled, expires]
        exact ((first.forgets_sweep now).live?_eq other).trans
          ((alike.live other).trans ((second.forgets_sweep now).live?_eq other).symm)
      | ok expiry =>
        have expires' := expires
        rw [← alike.defaultTtl] at expires'
        rw [live?_set switch expires', live?_set enabled expires, alike.live]

theorem settle (alike : Alike now first second) (key : String)
    (outcome : Except Failure (Option α)) (ttl : Option τ) :
    Alike now (first.settle now key outcome ttl).cache
      (second.settle now key outcome ttl).cache := by
  cases outcome with
  | error failure => exact alike
  | ok value => exact alike.set key value ttl

end Alike

/-! ## Calls to fetch -/

variable [Clock τ]

namespace Alike

/-- **A call gives the same**, and fetches in the same cases. -/
theorem result_getOrSet (alike : Alike now first second) (key : String) (fetch : Fetch τ α)
    (ttl : Option τ) :
    (first.getOrSet now key fetch ttl).result = (second.getOrSet now key fetch ttl).result := by
  have looked := alike.found key
  cases found : (second.get now key).1 with
  | some value =>
    rw [found] at looked
    rw [getOrSet_of_found looked, getOrSet_of_found found]
  | none =>
    rw [found] at looked
    rw [result_getOrSet_of_missed looked, result_getOrSet_of_missed found, alike.enabled,
      alike.defaultTtl]

/-- A call takes the same time. -/
theorem now_getOrSet (alike : Alike now first second) (key : String) (fetch : Fetch τ α)
    (ttl : Option τ) :
    (first.getOrSet now key fetch ttl).now = (second.getOrSet now key fetch ttl).now := by
  have looked := alike.found key
  cases found : (second.get now key).1 with
  | some value =>
    rw [found] at looked
    rw [getOrSet_of_found looked, getOrSet_of_found found]
  | none =>
    rw [found] at looked
    rw [now_getOrSet_of_missed looked, now_getOrSet_of_missed found]

theorem getOrSet [IsTrans τ (· ≤ ·)] (alike : Alike now first second) (key : String)
    (fetch : Fetch τ α) (ttl : Option τ)
    (forward : now ≤ (first.getOrSet now key fetch ttl).now) :
    Alike (first.getOrSet now key fetch ttl).now (first.getOrSet now key fetch ttl).cache
      (second.getOrSet now key fetch ttl).cache := by
  have looked := alike.found key
  cases found : (second.get now key).1 with
  | some value =>
    rw [found] at looked
    rw [getOrSet_of_found looked, getOrSet_of_found found]
    exact alike.get key
  | none =>
    rw [found] at looked
    rw [now_getOrSet_of_missed looked] at forward ⊢
    have switch := alike.enabled
    cases enabled : second.enabled with
    | false =>
      rw [enabled] at switch
      rw [getOrSet_of_disabled switch, getOrSet_of_disabled enabled]
      exact alike.later forward
    | true =>
      rw [enabled] at switch
      rw [getOrSet_of_missed switch looked, getOrSet_of_missed enabled found]
      exact (((alike.searched key).later forward).settle key (fetch.run now).2 ttl).release key

/-! ## Runs -/

variable {uses : List (Use τ α)}

/-- **A use shows the same.** -/
theorem sight (alike : Alike now first second) (use : Use τ α) :
    (ClockedCache.mk first now).sight use = (ClockedCache.mk second now).sight use := by
  cases use with
  | get key => exact congrArg Sight.found (alike.found key)
  | getOrSet key fetch ttl =>
    unfold ClockedCache.sight
    dsimp only
    rw [alike.result_getOrSet, fetched_getOrSet, fetched_getOrSet, alike.found]
  | _ => rfl

/-- A use takes the same time. -/
theorem now_use (alike : Alike now first second) (use : Use τ α) :
    ((ClockedCache.mk first now).use use).now = ((ClockedCache.mk second now).use use).now := by
  cases use with
  | getOrSet key fetch ttl => exact alike.now_getOrSet key fetch ttl
  | advance time =>
    unfold ClockedCache.use
    dsimp only
    cases Clock.later now time <;> rfl
  | _ => rfl

variable [IsTrans τ (· ≤ ·)]

/-- **A use keeps caches alike** if the clock does not go back. -/
theorem use (alike : Alike now first second) (use : Use τ α)
    (forward : now ≤ ((ClockedCache.mk first now).use use).now) :
    Alike ((ClockedCache.mk first now).use use).now ((ClockedCache.mk first now).use use).cache
      ((ClockedCache.mk second now).use use).cache := by
  cases use with
  | get key => exact alike.get key
  | set key value ttl => exact alike.set key value ttl
  | getOrSet key fetch ttl => exact alike.getOrSet key fetch ttl forward
  | delete key => exact alike.delete key
  | deletePattern pattern => exact alike.deletePattern pattern
  | clear => exact alike.clear
  | setEnabled enabled => exact alike.setEnabled enabled
  | advance time =>
    unfold ClockedCache.use at forward ⊢
    dsimp only at forward ⊢
    cases moved : Clock.later now time with
    | error failure => exact alike
    | ok moment =>
      rw [moved] at forward
      exact alike.later forward

/-- **Caches that are alike show the same** in every run on a clock that does not go back. -/
theorem sights (alike : Alike now first second)
    (forward : (ClockedCache.mk first now).RunsForward uses) :
    (ClockedCache.mk first now).sights uses = (ClockedCache.mk second now).sights uses := by
  induction uses generalizing first second now with
  | nil => rfl
  | cons use uses ih =>
    obtain ⟨next, forward⟩ := forward
    have kept := ih (alike.use use next) forward
    rw [ClockedCache.sights, ClockedCache.sights, alike.sight use]
    rw [alike.now_use use] at kept
    congr 1
    refine Eq.trans ?_ kept
    rw [← alike.now_use use]

end Alike

end Cache

end ArenaStandings
