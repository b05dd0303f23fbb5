import ArenaStandings.Proofs.Cache.Alike

/-!
# What a failed fetch leaves behind

A call whose fetch fails has looked its key up, which may remove an expired entry, and has had the
slot of the key, which it leaves again. The cache is then alike to the one before
(`Cache.Alike.of_failed_fetch`), so that nothing later shows whether the call was made
(`ClockedCache.unseen_of_failed_fetch`).
-/

namespace ArenaStandings

namespace Cache

variable {τ α : Type} [LE τ] [DecidableLE τ] [Clock τ] {cache : Cache τ α} {now : τ}

/-- **A failed fetch leaves a cache alike to what it was**, at the moment at which the call
began. -/
theorem Alike.of_failed_fetch (cache : Cache τ α) (key : String) {fetch : Fetch τ α}
    {failure : Failure} (failed : (fetch.run now).2 = .error failure) (ttl : Option τ) :
    Alike now (cache.getOrSet now key fetch ttl).cache cache := by
  cases found : (cache.get now key).1 with
  | some value =>
    rw [getOrSet_of_found found]
    exact get_self cache now key
  | none =>
    cases enabled : cache.enabled with
    | false =>
      rw [getOrSet_of_disabled enabled]
      exact .refl cache now
    | true =>
      rw [getOrSet_of_missed enabled found, failed]
      exact (release_self (cache.searched now key) now key).trans (searched_self cache now key)

/-- A call that is made when no other is leaves no slot behind. -/
theorem slots_getOrSet (idle : cache.pending = []) (now : τ) (key : String) (fetch : Fetch τ α)
    (ttl : Option τ) : (cache.getOrSet now key fetch ttl).cache.slots = cache.slots := by
  cases found : (cache.get now key).1 with
  | some value =>
    rw [getOrSet_of_found found]
    exact get_slots cache now key
  | none =>
    cases enabled : cache.enabled with
    | false => rw [getOrSet_of_disabled enabled]
    | true =>
      rw [getOrSet_of_missed enabled found]
      have seen : (cache.get now key).2.pending = [] := by
        rw [pending, get_slots]
        exact idle
      have joined : (cache.searched now key).slots =
          ((cache.get now key).2.acquire key).2.slots := by
        rw [searched, get_slots]
      refine Eq.trans (slots_release_of_acquired seen ?_) (get_slots cache now key)
      rw [settle_slots, joined]

end Cache

namespace ClockedCache

variable {τ α : Type} [LE τ] [DecidableLE τ] [Clock τ] [IsTrans τ (· ≤ ·)]

/-- **A failed fetch is not seen.** A call that fetches and fails gives the failure of its fetch at
the moment at which that ended. If no other call was going on, the slots are what they were, live
entries stay as they are, no entry is new, and whatever the cache is then used for, on a clock that
does not go back, shows what it would have shown if the time had passed without the call. -/
theorem unseen_of_failed_fetch (state : ClockedCache τ α) (idle : state.cache.pending = [])
    {key : String} {fetch : Fetch τ α} {ttl : Option τ} {failure : Failure}
    (fetches : (state.cache.getOrSet state.now key fetch ttl).fetched = true)
    (failed : (fetch.run state.now).2 = .error failure)
    (forward : state.now ≤ (fetch.run state.now).1) :
    let call := state.cache.getOrSet state.now key fetch ttl
    let waited : ClockedCache τ α := { state with now := (fetch.run state.now).1 }
    call.result = .error failure ∧ call.now = waited.now ∧
      call.cache.slots = state.cache.slots ∧
      (∀ other entry, state.cache.entries.find? other = some entry →
        entry.isExpired state.now = false → call.cache.entries.find? other = some entry) ∧
      (∀ other entry, call.cache.entries.find? other = some entry →
        state.cache.entries.find? other = some entry) ∧
      ∀ uses, waited.RunsForward uses →
        (ClockedCache.mk call.cache call.now).sights uses = waited.sights uses := by
  intro call waited
  have missed : (state.cache.get state.now key).1 = none := Cache.fetched_getOrSet_iff.1 fetches
  have moment : call.now = waited.now := Cache.now_getOrSet_of_missed missed fetch ttl
  have entries : call.cache.entries = (state.cache.get state.now key).2.entries :=
    Cache.entries_getOrSet_of_error key failed ttl
  have alike : Cache.Alike state.now call.cache state.cache :=
    .of_failed_fetch state.cache key failed ttl
  refine ⟨?result, moment, Cache.slots_getOrSet idle .., ?live, ?old, ?later⟩
  case result =>
    change (state.cache.getOrSet state.now key fetch ttl).result = _
    rw [Cache.result_getOrSet_of_missed missed, failed]
    rfl
  case live =>
    intro other entry present fresh
    rw [entries]
    rcases state.cache.find?_get state.now key other with kept | ⟨-, -, expired⟩
    · rw [kept, present]
    · rw [present, Option.all_some, fresh] at expired
      cases expired
  case old =>
    intro other entry present
    rw [entries] at present
    exact Cache.find?_of_find?_get present
  case later =>
    intro uses runs
    rw [moment]
    exact ((alike.later forward).symm.sights runs).symm

/-- A cache that still has a page, though it is expired, and figures that are live. -/
def stalePage : ClockedCache Int String :=
  (⟨.empty true 30, 0⟩ : ClockedCache Int String).afterUses
    [.set "page" (some "old") (some 10), .set "figures" (some "few") (some 50), .advance 20]

/-- The page is fetched, the figures are looked up when they have expired, and the page has to be
fetched again. -/
def laterUses : List (Cache.Use Int String) :=
  [.get "page", .getOrSet "page" ⟨.ok (some "new"), none⟩ none, .advance 40, .get "figures",
    .getOrSet "page" ⟨.error .integerTooLarge, some 1⟩ none]

/-- Fetching the page, which fails after a while, takes the expired entry away, and that is not
seen. -/
theorem unseen_of_failed_fetch_stale :
    let call :=
      stalePage.cache.getOrSet stalePage.now "page" ⟨.error .notConnected, some 5⟩ none
    stalePage.cache.keys = ["page", "figures"] ∧ call.cache.keys = ["figures"] ∧
      call.result = .error .notConnected ∧
      (ClockedCache.mk call.cache call.now).sights laterUses =
        (ClockedCache.mk stalePage.cache 25).sights laterUses := by
  have fetched : (stalePage.cache.getOrSet stalePage.now "page"
      ⟨.error .notConnected, some 5⟩ none).fetched = true := by decide
  have unseen := unseen_of_failed_fetch stalePage (by decide) fetched rfl (by decide)
  obtain ⟨failed, -, -, -, -, shows⟩ := unseen
  refine ⟨by decide, by decide, failed, shows laterUses ?forward⟩
  exact ⟨by decide, by decide, by decide, by decide, by decide, trivial⟩

end ClockedCache

end ArenaStandings
