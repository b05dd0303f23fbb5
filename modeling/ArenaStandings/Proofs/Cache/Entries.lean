import ArenaStandings.Proofs.Cache.Frame

/-!
# Where entries come from

Looking up and sweeping only take expired entries away, and nothing that a look-up at the same
moment would find (`Cache.found_get`, `Cache.found_settle_of_ne`). The one way in is keeping what a
fetch came to: an entry that a call leaves behind was there before the call, or holds what the call
fetched until the moment that the time to keep it leads to (`Cache.find?_getOrSet`).
-/

namespace ArenaStandings

theorem Fetch.outcome_of_run {τ α : Type} [Clock τ] {fetch : Fetch τ α} {now : τ}
    {value : Option α} (ended : (fetch.run now).2 = .ok value) : fetch.outcome = .ok value := by
  unfold run at ended
  split at ended
  · exact ended
  · split at ended
    · exact ended
    · cases ended

namespace Cache

variable {τ α : Type}

/-- What is left of the entries when the pages are removed. -/
theorem find?_invalidateLeaderboard {cache : Cache τ α} {key : String} {entry : Entry τ α} :
    cache.invalidateLeaderboard.2.entries.find? key = some entry ↔
      cache.entries.find? key = some entry ∧
        Glob.fits CacheKey.leaderboardPattern key = false := by
  rw [invalidateLeaderboard, deletePattern, Table.find?_filter, Option.filter_eq_some_iff,
    Bool.not_eq_true']

/-! ## Looking up -/

variable [LE τ] [DecidableLE τ]

/-- What is found is the value of an entry that is not expired. -/
theorem found_eq (cache : Cache τ α) (now : τ) (key : String) :
    (cache.get now key).1 =
      if cache.enabled then
        ((cache.entries.find? key).filter fun entry => !entry.isExpired now).bind Entry.value
      else none := by
  unfold get
  cases cache.enabled with
  | false => rfl
  | true =>
    cases cache.entries.find? key with
    | none => rfl
    | some entry => cases expired : entry.isExpired now <;> simp [Option.filter_some, expired]

/-- A value that is found was kept under the key until a later moment. -/
theorem find?_of_found {cache : Cache τ α} {now : τ} {key : String} {value : α}
    (found : (cache.get now key).1 = some value) :
    ∃ entry, cache.entries.find? key = some entry ∧ entry.value = some value ∧
      ¬ entry.expiry ≤ now := by
  rw [found_eq] at found
  split at found
  · obtain ⟨entry, fresh, held⟩ := Option.bind_eq_some_iff.1 found
    rw [Option.filter_eq_some_iff] at fresh
    exact ⟨entry, fresh.1, held, by simpa [Entry.isExpired] using fresh.2⟩
  · cases found

/-- A look-up takes the entry of its key away if that is expired, and leaves the others. -/
theorem entries_get (cache : Cache τ α) (now : τ) (key : String) :
    (cache.get now key).2.entries =
      if cache.enabled = true ∧ (cache.entries.find? key).any (Entry.isExpired · now) = true then
        cache.entries.erase key
      else cache.entries := by
  unfold get
  cases cache.enabled with
  | false => simp
  | true =>
    cases cache.entries.find? key with
    | none => simp
    | some entry => cases expired : entry.isExpired now <;> simp [expired]

theorem find?_get (cache : Cache τ α) (now : τ) (key other : String) :
    (cache.get now key).2.entries.find? other = cache.entries.find? other ∨
      other = key ∧ (cache.get now key).2.entries.find? other = none ∧
        (cache.entries.find? other).all fun entry => entry.isExpired now := by
  rw [entries_get]
  split
  · rename_i erased
    rw [Table.find?_erase]
    split
    · rename_i same
      obtain ⟨entry, present, expired⟩ := (Option.any_eq_true ..).1 erased.2
      refine .inr ⟨same, rfl, ?_⟩
      rw [same, present]
      exact expired
    · exact .inl rfl
  · exact .inl rfl

theorem find?_of_find?_get {cache : Cache τ α} {now : τ} {key other : String}
    {entry : Entry τ α} (present : (cache.get now key).2.entries.find? other = some entry) :
    cache.entries.find? other = some entry := by
  rcases cache.find?_get now key other with kept | ⟨-, gone, -⟩
  · rw [← kept, present]
  · rw [gone] at present
    cases present

/-- An entry that a look-up passes over, though it holds a value, is expired. -/
theorem expiry_le_of_missed {cache : Cache τ α} (enabled : cache.enabled = true) {now : τ}
    {key : String} {entry : Entry τ α} {value : α}
    (present : cache.entries.find? key = some entry) (held : entry.value = some value)
    (missed : (cache.get now key).1 = none) : entry.expiry ≤ now := by
  rw [found_eq, if_pos enabled, present, Option.filter_some] at missed
  split at missed
  · rw [Option.bind_some, held] at missed
    cases missed
  · rename_i expired
    simpa [Entry.isExpired] using expired

theorem found_congr {cache other : Cache τ α} (enabled : cache.enabled = other.enabled)
    {key : String} (same : cache.entries.find? key = other.entries.find? key) (now : τ) :
    (cache.get now key).1 = (other.get now key).1 := by
  rw [found_eq, found_eq, enabled, same]

/-- A look-up hides nothing from later look-ups at the moment. -/
theorem found_get (cache : Cache τ α) (now : τ) (key other : String) :
    ((cache.get now key).2.get now other).1 = (cache.get now other).1 := by
  rcases cache.find?_get now key other with kept | ⟨-, gone, expired⟩
  · exact found_congr (get_enabled ..) kept now
  · rw [found_eq, found_eq, get_enabled, gone]
    cases present : cache.entries.find? other with
    | none => rfl
    | some entry =>
      rw [present, Option.all_some] at expired
      simp [Option.filter_some, expired]

@[simp] theorem found_acquire (cache : Cache τ α) (now : τ) (key other : String) :
    ((cache.acquire key).2.get now other).1 = (cache.get now other).1 :=
  found_congr (acquire_enabled ..) (by rw [acquire_entries]) now

@[simp] theorem found_release (cache : Cache τ α) (now : τ) (key other : String) :
    ((cache.release key).get now other).1 = (cache.get now other).1 :=
  found_congr (release_enabled ..) (by rw [release_entries]) now

/-- A sweep leaves an entry where it is, or takes it away if it is expired. -/
theorem find?_sweep (cache : Cache τ α) (now : τ) (key : String) :
    (cache.sweep now).entries.find? key = cache.entries.find? key ∨
      (cache.sweep now).entries.find? key = none ∧
        (cache.entries.find? key).all fun entry => entry.isExpired now := by
  rw [sweep, Table.find?_filter]
  cases cache.entries.find? key with
  | none => exact .inl rfl
  | some entry => cases expired : entry.isExpired now <;> simp [Option.filter_some, expired]

theorem found_sweep (cache : Cache τ α) (now : τ) (key : String) :
    ((cache.sweep now).get now key).1 = (cache.get now key).1 := by
  rw [found_eq, found_eq, sweep, Table.find?_filter, Option.filter_filter]
  simp only [Bool.and_self]

/-! ## Keeping -/

variable [Clock τ]

/-- The entries that keeping what a fetch came to leaves. -/
theorem find?_settle {cache : Cache τ α} {now : τ} {key : String}
    {outcome : Except Failure (Option α)} {ttl : Option τ} {other : String} {entry : Entry τ α}
    (present : (cache.settle now key outcome ttl).cache.entries.find? other = some entry) :
    cache.entries.find? other = some entry ∨
      other = key ∧ outcome = .ok entry.value ∧
        Clock.later now (ttl.getD cache.defaultTtl) = .ok entry.expiry := by
  have swept : ∀ {entry : Entry τ α}, (cache.sweep now).entries.find? other = some entry →
      cache.entries.find? other = some entry := by
    intro entry left
    rw [sweep, Table.find?_filter, Option.filter_eq_some_iff] at left
    exact left.1
  cases outcome with
  | error failure => exact .inl present
  | ok value =>
    change (cache.set now key value ttl).cache.entries.find? other = some entry at present
    unfold set at present
    split at present
    · exact .inl present
    · cases moment : Clock.later now (ttl.getD cache.defaultTtl) with
      | error failure =>
        rw [moment] at present
        exact .inl (swept present)
      | ok expiry =>
        rw [moment] at present
        dsimp only at present
        rw [Table.find?_insert] at present
        split at present
        · rename_i same
          cases present
          exact .inr ⟨same, rfl, rfl⟩
        · exact .inl (swept present)

/-- Keeping what a fetch came to hides nothing under other keys at the moment. -/
theorem found_settle_of_ne {key other : String} (differ : other ≠ key) (cache : Cache τ α)
    (now : τ) (outcome : Except Failure (Option α)) (ttl : Option τ) :
    ((cache.settle now key outcome ttl).cache.get now other).1 = (cache.get now other).1 := by
  cases outcome with
  | error failure => rfl
  | ok value =>
    change ((cache.set now key value ttl).cache.get now other).1 = _
    unfold set
    split
    · rfl
    · dsimp only
      split
      · exact found_sweep cache now other
      · rw [← found_sweep cache now other]
        refine found_congr ?_ ?_ now
        · rfl
        · exact (Table.find?_insert ..).trans (if_neg differ)

/-- What is found under the key after keeping a value until a moment that has not come is the value;
a failure, or a moment that cannot be written down, leaves what was found. -/
theorem found_settle_self {cache : Cache τ α} (enabled : cache.enabled = true) (now : τ)
    (key : String) (outcome : Except Failure (Option α)) (ttl : Option τ) :
    ((cache.settle now key outcome ttl).cache.get now key).1 =
      match outcome, Clock.later now (ttl.getD cache.defaultTtl) with
      | .ok value, .ok expiry => if expiry ≤ now then none else value
      | _, _ => (cache.get now key).1 := by
  cases outcome with
  | error failure => rfl
  | ok value =>
    change ((cache.set now key value ttl).cache.get now key).1 = _
    unfold set
    rw [if_neg (by simp [enabled])]
    dsimp only
    cases Clock.later now (ttl.getD cache.defaultTtl) with
    | error failure => exact found_sweep cache now key
    | ok expiry =>
      dsimp only
      rw [found_eq, Table.find?_insert, if_pos rfl]
      by_cases past : expiry ≤ now <;>
        simp [sweep, enabled, Option.filter_some, Entry.isExpired, past]

/-- What was fetched is given unless the moment until which to keep it cannot be written down. -/
theorem result_settle {cache : Cache τ α} (enabled : cache.enabled = true) (now : τ)
    (key : String) (outcome : Except Failure (Option α)) (ttl : Option τ) :
    ((cache.settle now key outcome ttl).result.bind fun _ => outcome) =
      outcome.bind fun value =>
        (Clock.later now (ttl.getD cache.defaultTtl)).map fun _ => value := by
  cases outcome with
  | error failure => rfl
  | ok value =>
    change ((cache.set now key value ttl).result.bind fun _ => _) = _
    unfold set
    rw [if_neg (by simp [enabled])]
    dsimp only
    cases Clock.later now (ttl.getD cache.defaultTtl) <;> rfl

/-- A value is given if it was fetched and there is a moment until which to keep it. -/
theorem result_settle_eq_ok {cache : Cache τ α} (enabled : cache.enabled = true) {now : τ}
    {key : String} {outcome : Except Failure (Option α)} {ttl : Option τ} {value : Option α} :
    ((cache.settle now key outcome ttl).result.bind fun _ => outcome) = .ok value ↔
      outcome = .ok value ∧
        ∃ expiry, Clock.later now (ttl.getD cache.defaultTtl) = .ok expiry := by
  rw [result_settle enabled]
  cases outcome with
  | error failure => simp [Except.bind]
  | ok fetched =>
    cases Clock.later now (ttl.getD cache.defaultTtl) <;> simp [Except.bind, Except.map]

/-- Keeping what a fetch came to takes away nothing of other keys but what is expired. -/
theorem find?_settle_of_ne {key other : String} (differ : other ≠ key) (cache : Cache τ α)
    (now : τ) (outcome : Except Failure (Option α)) (ttl : Option τ) :
    (cache.settle now key outcome ttl).cache.entries.find? other = cache.entries.find? other ∨
      (cache.entries.find? other).all fun entry => entry.isExpired now := by
  cases outcome with
  | error failure => exact .inl rfl
  | ok value =>
    change (cache.set now key value ttl).cache.entries.find? other = _ ∨ _
    unfold set
    split
    · exact .inl rfl
    · dsimp only
      cases Clock.later now (ttl.getD cache.defaultTtl) with
      | error failure => exact (cache.find?_sweep now other).imp_right And.right
      | ok expiry =>
        dsimp only
        rw [Table.find?_insert, if_neg differ]
        exact (cache.find?_sweep now other).imp_right And.right

/-- **What a call leaves behind.** An entry was there before the call, or it holds what the call
fetched. -/
theorem find?_getOrSet {cache : Cache τ α} {now : τ} {key : String} {fetch : Fetch τ α}
    {ttl : Option τ} {other : String} {entry : Entry τ α}
    (present : (cache.getOrSet now key fetch ttl).cache.entries.find? other = some entry) :
    cache.entries.find? other = some entry ∨
      other = key ∧ (fetch.run now).2 = .ok entry.value ∧
        Clock.later (fetch.run now).1 (ttl.getD cache.defaultTtl) = .ok entry.expiry := by
  unfold getOrSet at present
  dsimp only at present
  split at present
  · exact .inl present
  · split at present <;> rename_i seen first
    · have left : (cache.get now key).2.entries.find? other = some entry := by
        rw [first]
        exact present
      exact .inl (find?_of_find?_get left)
    · have looked : seen = (cache.get now key).2 := by rw [first]
      have kept : ∀ {entry : Entry τ α},
          ((seen.acquire key).2.get now key).2.entries.find? other =
          some entry → cache.entries.find? other = some entry := by
        intro entry left
        have before := find?_of_find?_get left
        rw [acquire_entries, looked] at before
        exact find?_of_find?_get before
      split at present <;> rename_i again second
      · rw [second] at kept
        exact .inl (kept (release_entries again key ▸ present))
      · rw [second] at kept
        rw [release_entries] at present
        rcases find?_settle present with before | ⟨same, fetched, moment⟩
        · exact .inl (kept before)
        · have default : again.defaultTtl = cache.defaultTtl := by
            have looked' : again = ((seen.acquire key).2.get now key).2 := by rw [second]
            rw [looked', get_defaultTtl, acquire_defaultTtl, looked, get_defaultTtl]
          rw [default] at moment
          exact .inr ⟨same, fetched, moment⟩

/-- **What a call gives.** A value that a call gives was kept under the key until a later moment, or
the call has fetched it. -/
theorem result_getOrSet {cache : Cache τ α} {now : τ} {key : String} {fetch : Fetch τ α}
    {ttl : Option τ} {value : α}
    (given : (cache.getOrSet now key fetch ttl).result = .ok (some value)) :
    (∃ entry, cache.entries.find? key = some entry ∧ entry.value = some value ∧
      ¬ entry.expiry ≤ now) ∨ (fetch.run now).2 = .ok (some value) := by
  unfold getOrSet at given
  dsimp only at given
  split at given
  · exact .inr given
  · split at given <;> rename_i seen first
    · cases given
      exact .inl (find?_of_found (by rw [first]))
    · split at given <;> rename_i again second
      · cases given
        have found := found_acquire seen now key key
        have looked : seen = (cache.get now key).2 := by rw [first]
        rw [second, looked, found_get] at found
        exact .inl (find?_of_found found.symm)
      · cases kept : (again.settle (fetch.run now).1 key (fetch.run now).2 ttl).result with
        | ok _ =>
          rw [kept] at given
          exact .inr given
        | error failure =>
          rw [kept] at given
          cases given

end Cache

end ArenaStandings
