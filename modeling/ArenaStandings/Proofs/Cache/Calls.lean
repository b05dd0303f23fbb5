import ArenaStandings.Proofs.Cache.Entries

/-!
# Calls, one at a time

A call through the cache that finds a value looks it up and does nothing else
(`Cache.getOrSet_of_found`); one that finds nothing fetches, and keeps what it fetches if the cache
is switched on (`Cache.getOrSet_of_missed`, `Cache.getOrSet_of_disabled`). Looking up and sweeping
only remove expired entries (`Cache.Forgets`), which leaves the live ones where they are, and so
does a call that fails (`Cache.forgets_getOrSet_of_error`).
-/

namespace ArenaStandings

namespace Cache

variable {τ α : Type} [LE τ] [DecidableLE τ]

/-- Nothing is done to the entries but to remove some that are expired. -/
def Forgets (now : τ) (cache other : Cache τ α) : Prop :=
  ∀ key, other.entries.find? key = cache.entries.find? key ∨
    other.entries.find? key = none ∧
      (cache.entries.find? key).all fun entry => entry.isExpired now

theorem forgets_of_entries_eq {cache other : Cache τ α} (same : other.entries = cache.entries)
    (now : τ) : cache.Forgets now other := by
  intro key
  rw [same]
  exact .inl rfl

theorem forgets_get (cache : Cache τ α) (now : τ) (key : String) :
    cache.Forgets now (cache.get now key).2 := by
  intro other
  rcases cache.find?_get now key other with kept | ⟨-, gone, expired⟩
  · exact .inl kept
  · exact .inr ⟨gone, expired⟩

theorem forgets_sweep (cache : Cache τ α) (now : τ) : cache.Forgets now (cache.sweep now) :=
  cache.find?_sweep now

theorem Forgets.trans {now : τ} {first second third : Cache τ α}
    (forgets : first.Forgets now second)
    (forgets' : second.Forgets now third) : first.Forgets now third := by
  intro key
  rcases forgets key with same | ⟨gone, expired⟩
  · rw [← same]
    exact forgets' key
  · rcases forgets' key with same' | ⟨gone', -⟩
    · exact .inr ⟨same'.trans gone, expired⟩
    · exact .inr ⟨gone', expired⟩

/-- The entry under a key if it is not expired. -/
def live? (cache : Cache τ α) (now : τ) (key : String) : Option (Entry τ α) :=
  (cache.entries.find? key).filter fun entry => !entry.isExpired now

/-- What is forgotten was not live. -/
theorem Forgets.live?_eq {now : τ} {cache other : Cache τ α} (forgets : cache.Forgets now other)
    (key : String) : other.live? now key = cache.live? now key := by
  rw [live?, live?]
  rcases forgets key with same | ⟨gone, expired⟩
  · rw [same]
  · rw [gone, Option.filter_none]
    cases present : cache.entries.find? key with
    | none => rfl
    | some entry =>
      rw [present, Option.all_some] at expired
      simp [Option.filter_some, expired]

theorem enabled_of_found {cache : Cache τ α} {now : τ} {key : String} {value : α}
    (found : (cache.get now key).1 = some value) : cache.enabled = true := by
  cases switch : cache.enabled with
  | true => rfl
  | false =>
    rw [found_eq, switch] at found
    cases found

variable [Clock τ]

/-- A write to a cache that is switched on is an insertion after a sweep. -/
theorem find?_set {cache : Cache τ α} (enabled : cache.enabled = true) {now expiry : τ}
    {ttl : Option τ} (moment : Clock.later now (ttl.getD cache.defaultTtl) = .ok expiry)
    (key : String) (value : Option α) (other : String) :
    (cache.set now key value ttl).cache.entries.find? other =
      if other = key then some ⟨value, expiry⟩ else (cache.sweep now).entries.find? other := by
  unfold set
  rw [if_neg (by simp [enabled])]
  dsimp only
  rw [moment]
  exact Table.find?_insert ..

/-- A call that finds a value at once looks up and does nothing else. -/
theorem getOrSet_of_found {cache : Cache τ α} {now : τ} {key : String} {value : α}
    (found : (cache.get now key).1 = some value) (fetch : Fetch τ α) (ttl : Option τ) :
    cache.getOrSet now key fetch ttl =
      ⟨.ok (some value), false, now, (cache.get now key).2, [hitLine key]⟩ := by
  have enabled : cache.enabled = true := enabled_of_found found
  unfold getOrSet
  simp only [enabled, Bool.not_true, Bool.false_eq_true, ↓reduceIte]
  split <;> rename_i first
  · rw [first] at found ⊢
    cases found
    rfl
  · rw [first] at found
    cases found

/-- The cache as a call that has found nothing twice leaves it to its fetch. -/
def searched (cache : Cache τ α) (now : τ) (key : String) : Cache τ α :=
  (((cache.get now key).2.acquire key).2.get now key).2

omit [Clock τ] in
@[simp] theorem searched_enabled (cache : Cache τ α) (now : τ) (key : String) :
    (cache.searched now key).enabled = cache.enabled := by
  simp [searched]

omit [Clock τ] in
@[simp] theorem searched_defaultTtl (cache : Cache τ α) (now : τ) (key : String) :
    (cache.searched now key).defaultTtl = cache.defaultTtl := by
  simp [searched]

/-- A call that finds nothing in a cache that is switched on keeps what it fetches. -/
theorem getOrSet_of_missed {cache : Cache τ α} (enabled : cache.enabled = true) {now : τ}
    {key : String} (missed : (cache.get now key).1 = none) (fetch : Fetch τ α) (ttl : Option τ) :
    let written := (cache.searched now key).settle (fetch.run now).1 key (fetch.run now).2 ttl
    cache.getOrSet now key fetch ttl =
      ⟨written.result.bind fun _ => (fetch.run now).2, true, (fetch.run now).1,
        written.cache.release key, missLine key :: written.lines⟩ := by
  have missed' : (((cache.get now key).2.acquire key).2.get now key).1 = none := by
    rw [found_acquire, found_get, missed]
  unfold getOrSet
  simp only [enabled, Bool.not_true, Bool.false_eq_true, ↓reduceIte]
  split <;> rename_i seen first
  · rw [first] at missed
    cases missed
  · have looked : seen = (cache.get now key).2 := by rw [first]
    subst looked
    split <;> rename_i again second
    · rw [second] at missed'
      cases missed'
    · rw [searched, second]

/-- A call through a cache that is switched off only fetches. -/
theorem getOrSet_of_disabled {cache : Cache τ α} (disabled : cache.enabled = false) (now : τ)
    (key : String) (fetch : Fetch τ α) (ttl : Option τ) :
    cache.getOrSet now key fetch ttl =
      ⟨(fetch.run now).2, true, (fetch.run now).1, cache, []⟩ := by
  unfold getOrSet
  simp [disabled]

/-- A call fetches exactly if it finds nothing. -/
theorem fetched_getOrSet (cache : Cache τ α) (now : τ) (key : String) (fetch : Fetch τ α)
    (ttl : Option τ) :
    (cache.getOrSet now key fetch ttl).fetched = (cache.get now key).1.isNone := by
  cases found : (cache.get now key).1 with
  | some value => rw [getOrSet_of_found found, Option.isNone_some]
  | none =>
    cases enabled : cache.enabled with
    | false => rw [getOrSet_of_disabled enabled, Option.isNone_none]
    | true => rw [getOrSet_of_missed enabled found, Option.isNone_none]

theorem fetched_getOrSet_iff {cache : Cache τ α} {now : τ} {key : String} {fetch : Fetch τ α}
    {ttl : Option τ} :
    (cache.getOrSet now key fetch ttl).fetched = true ↔ (cache.get now key).1 = none := by
  rw [fetched_getOrSet, Option.isNone_iff_eq_none]

/-- The moment after a call that finds nothing is the one at which its fetch ends. -/
theorem now_getOrSet_of_missed {cache : Cache τ α} {now : τ} {key : String}
    (missed : (cache.get now key).1 = none) (fetch : Fetch τ α) (ttl : Option τ) :
    (cache.getOrSet now key fetch ttl).now = (fetch.run now).1 := by
  cases enabled : cache.enabled with
  | false => rw [getOrSet_of_disabled enabled]
  | true => rw [getOrSet_of_missed enabled missed]

omit [Clock τ] in
/-- The second look-up of a call finds nothing to take away. -/
theorem entries_searched (cache : Cache τ α) (now : τ) (key : String) :
    (cache.searched now key).entries = (cache.get now key).2.entries := by
  have looked : ¬ (cache.enabled = true ∧
      ((cache.get now key).2.entries.find? key).any (Entry.isExpired · now) = true) := by
    rintro ⟨on, expired⟩
    rw [entries_get] at expired
    split at expired
    · rw [Table.find?_erase, if_pos rfl] at expired
      cases expired
    · rename_i fresh
      exact fresh ⟨on, expired⟩
  rw [searched, entries_get, acquire_entries, acquire_enabled, get_enabled, if_neg looked]

/-- **A failed fetch keeps nothing.** A call whose fetch fails leaves the entries as a look-up
does. -/
theorem entries_getOrSet_of_error {cache : Cache τ α} {now : τ} (key : String)
    {fetch : Fetch τ α} {failure : Failure} (failed : (fetch.run now).2 = .error failure)
    (ttl : Option τ) :
    (cache.getOrSet now key fetch ttl).cache.entries = (cache.get now key).2.entries := by
  cases on : cache.enabled with
  | false => rw [getOrSet_of_disabled on, entries_get, if_neg (by simp [on])]
  | true =>
    cases found : (cache.get now key).1 with
    | some value => rw [getOrSet_of_found found]
    | none =>
      rw [getOrSet_of_missed on found, failed, release_entries]
      exact cache.entries_searched now key

/-- What a call comes to that finds nothing: what it fetches, unless that would have to be kept
until a moment that cannot be written down. -/
theorem result_getOrSet_of_missed {cache : Cache τ α} {now : τ} {key : String}
    (missed : (cache.get now key).1 = none) (fetch : Fetch τ α) (ttl : Option τ) :
    (cache.getOrSet now key fetch ttl).result =
      (fetch.run now).2.bind fun value =>
        if cache.enabled then
          (Clock.later (fetch.run now).1 (ttl.getD cache.defaultTtl)).map fun _ => value
        else .ok value := by
  cases on : cache.enabled with
  | false =>
    rw [getOrSet_of_disabled on]
    cases (fetch.run now).2 <;> rfl
  | true =>
    have switch : (cache.searched now key).enabled = true := (searched_enabled ..).trans on
    rw [getOrSet_of_missed on missed]
    dsimp only
    rw [result_settle switch, searched_defaultTtl]
    rfl

omit [Clock τ] in
theorem forgets_searched (cache : Cache τ α) (now : τ) (key : String) :
    cache.Forgets now (cache.searched now key) := by
  refine (cache.forgets_get now key).trans ?_
  exact forgets_of_entries_eq (cache.entries_searched now key) now

/-- Keeping that fails forgets expired entries only. -/
theorem forgets_settle_of_error {cache : Cache τ α} {now : τ} {key : String}
    {outcome : Except Failure (Option α)} {ttl : Option τ} {failure : Failure}
    (failed : (cache.settle now key outcome ttl).result = .error failure) :
    cache.Forgets now (cache.settle now key outcome ttl).cache := by
  cases outcome with
  | error failure => exact forgets_of_entries_eq rfl now
  | ok value =>
    change (cache.set now key value ttl).result = .error failure at failed
    change cache.Forgets now (cache.set now key value ttl).cache
    unfold set at failed ⊢
    split at failed
    · cases failed
    · rename_i on
      rw [if_neg on]
      dsimp only at failed ⊢
      cases moment : Clock.later now (ttl.getD cache.defaultTtl) with
      | error failure => exact cache.forgets_sweep now
      | ok expiry =>
        rw [moment] at failed
        cases failed

/-- **A failed call keeps nothing.** A call that takes no time and fails forgets expired entries
only. -/
theorem forgets_getOrSet_of_error {cache : Cache τ α} {now : τ} {key : String}
    {fetch : Fetch τ α} {ttl : Option τ} {failure : Failure} (instant : (fetch.run now).1 = now)
    (failed : (cache.getOrSet now key fetch ttl).result = .error failure) :
    cache.Forgets now (cache.getOrSet now key fetch ttl).cache := by
  cases on : cache.enabled with
  | false =>
    rw [getOrSet_of_disabled on]
    exact forgets_of_entries_eq rfl now
  | true =>
    cases found : (cache.get now key).1 with
    | some value =>
      rw [getOrSet_of_found found] at failed
      cases failed
    | none =>
      rw [getOrSet_of_missed on found] at failed ⊢
      dsimp only at failed ⊢
      rw [instant] at failed ⊢
      refine (cache.forgets_searched now key).trans ?_
      refine Forgets.trans ?_ (forgets_of_entries_eq (release_entries ..) now)
      cases fetched : (fetch.run now).2 with
      | error failure => exact forgets_of_entries_eq rfl now
      | ok value =>
        rw [fetched] at failed
        cases kept : ((cache.searched now key).settle now key (.ok value) ttl).result with
        | error failure => exact forgets_settle_of_error kept
        | ok done =>
          rw [kept] at failed
          cases failed

end Cache

end ArenaStandings
