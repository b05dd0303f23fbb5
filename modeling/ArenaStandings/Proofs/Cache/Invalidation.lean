import ArenaStandings.Proofs.Cache.Keys
import ArenaStandings.Proofs.Cache.Stage

/-!
# What is given after pages are removed

The pages of the leaderboard can be removed while calls are inside their fetches. Such a fetch goes
on; what it comes to is kept when it ends, and found by later calls. What a call came to that was
over when the pages were removed is not given again, in whatever order the calls go on
(`Session.fetchedSince_after`).
-/

namespace ArenaStandings

namespace Session

variable {τ α : Type}

/-- A call of the key that was not over in the first session has begun to fetch in the second one,
and the value is the outcome of its fetch. Values may be of any type, so they may carry the place of
the call whose fetch gives them; a value then identifies the fetch that it came from, and no other
fetch with the same outcome can stand in for it. -/
def FetchedSince (before session : Session τ α) (key : String) (value : Option α) : Prop :=
  ∃ id call, session.call? id = some call ∧ call.key = key ∧ before.result? id = none ∧
    id ∈ session.fetches ∧ call.fetch.outcome = .ok value

/-- Besides being consistent, a session has the calls inside their fetches on record. -/
structure Recorded (session : Session τ α) : Prop where
  consistent : session.Consistent
  mem_fetches : ∀ {id}, session.stage? id = some .during → id ∈ session.fetches

variable {before session next : Session τ α} {id : Nat} {call : Call τ α} {key : String}
  {value : Option α}

theorem FetchedSince.mono (fetched : FetchedSince before session key value)
    (calls : ∀ id, next.call? id = session.call? id)
    (fetches : session.fetches ⊆ next.fetches) :
    FetchedSince before next key value := by
  obtain ⟨id, call, made, own, ongoing, begun, outcome⟩ := fetched
  exact ⟨id, call, (calls id).trans made, own, ongoing, fetches begun, outcome⟩

/-! ## The record of fetches -/

namespace Recorded

theorem start {cache : Cache τ α} (idle : cache.pending = []) (now : τ)
    (calls : List (Call τ α)) : (Session.start cache now calls).Recorded where
  consistent := .start idle now calls
  mem_fetches := fun {id} fetching => by
    rw [stage?, phase?_start, Option.map_map] at fetching
    obtain ⟨call, -, arriving⟩ := Option.map_eq_some_iff.1 fetching
    cases arriving

variable [LE τ] [DecidableLE τ] [Clock τ] (recorded : session.Recorded)
include recorded

theorem move (made : session.call? id = some call) (move : Move id call session next) :
    next.Recorded := by
  refine ⟨recorded.consistent.move made move, fun {other} fetching => ?_⟩
  cases move.shown with
  | still stages fetches =>
    rw [stages] at fetching
    rw [fetches]
    exact recorded.mem_fetches fetching
  | begins waits entered stages fetches =>
    rw [stages] at fetching
    rw [fetches, List.mem_append, List.mem_singleton]
    split at fetching
    · rename_i same
      exact .inr same
    · exact .inl (recorded.mem_fetches fetching)
  | finds waits found stages fetches | ends come stages fetches =>
    rw [stages] at fetching
    rw [fetches]
    split at fetching
    · cases fetching
    · exact recorded.mem_fetches fetching

theorem leave (made : session.call? id = some call) {lock : Nat}
    {result : Except Failure (Option α)} (ends : Ending id call session next lock result) :
    (next.leave id lock call.key result).1.Recorded := by
  obtain ⟨consistent, held⟩ := recorded.consistent.ending ends
  refine ⟨consistent.leave ((ends.call? id).trans made) held result, fun {other} fetching => ?_⟩
  rw [ends.stage?_leave recorded.consistent] at fetching
  rw [leave_fetches, ends.fetches]
  split at fetching
  · cases fetching
  · exact recorded.mem_fetches fetching

theorem step (event : Event τ) : (session.step event).Recorded := by
  cases event with
  | resume id =>
    exact resume_induction recorded id (fun made moves recorded => recorded.move made moves)
      fun made ends recorded => recorded.leave made ends
  | wait time =>
    refine ⟨recorded.consistent.step (.wait time), ?_⟩
    unfold Session.step
    dsimp only
    split <;> exact recorded.mem_fetches
  | invalidate => exact ⟨recorded.consistent.step .invalidate, recorded.mem_fetches⟩

end Recorded

/-! ## What is kept and given since the pages were removed -/

/-- A call that goes on leaves what the others came to as it is; it was not over. -/
theorem result?_of_advance {stage : Stage α}
    (stages : ∀ other,
      next.stage? other = if other = id then some stage else session.stage? other)
    (ongoing : session.result? id = none) {Given : Option α → Prop}
    (given : ∀ {value}, stage.result? = some (.ok value) → Given value) (other : Nat) :
    next.result? other = session.result? other ∨
      other = id ∧ session.result? id = none ∧
        ∀ {value}, next.result? id = some (.ok value) → Given value := by
  have results := result?_of_stages stages
  by_cases same : other = id
  · refine .inr ⟨same, ongoing, fun gives => given ?_⟩
    rw [← gives, results, if_pos rfl]
  · exact .inl (by rw [results, if_neg same])

/-- Under the keys of pages nothing is kept, and to calls that were not over nothing is given, but
what has been fetched since the session before. -/
structure Renewed (before session : Session τ α) : Prop where
  recorded : session.Recorded
  /-- A call that was over is over. -/
  ongoing : ∀ {id}, session.result? id = none → before.result? id = none
  entries : ∀ {key entry}, Glob.fits CacheKey.leaderboardPattern key = true →
    session.cache.entries.find? key = some entry → FetchedSince before session key entry.value
  results : ∀ {id call value}, Glob.fits CacheKey.leaderboardPattern call.key = true →
    session.call? id = some call → before.result? id = none →
      session.result? id = some (.ok value) → FetchedSince before session call.key value

namespace Renewed

variable (renewed : Renewed before session)
include renewed

/-- A call goes on. What is kept then has been fetched since, and so has what the call is given, if
it comes to a result. -/
theorem advance (recorded : next.Recorded)
    (calls : ∀ other, next.call? other = session.call? other)
    (fetches : session.fetches ⊆ next.fetches) (made : session.call? id = some call)
    (entries : ∀ {key entry}, Glob.fits CacheKey.leaderboardPattern key = true →
      next.cache.entries.find? key = some entry → FetchedSince before session key entry.value)
    (results : ∀ other, next.result? other = session.result? other ∨
      other = id ∧ session.result? id = none ∧ ∀ {value},
        next.result? id = some (.ok value) →
        Glob.fits CacheKey.leaderboardPattern call.key = true →
          FetchedSince before session call.key value) :
    Renewed before next where
  recorded := recorded
  ongoing := fun {other} unended => by
    rcases results other with same | ⟨rfl, ongoing, -⟩
    · exact renewed.ongoing (same.symm.trans unended)
    · exact renewed.ongoing ongoing
  entries := fun page present => (entries page present).mono calls fetches
  results := fun {other call' value} page made' ongoing given => by
    rw [calls] at made'
    rcases results other with same | ⟨rfl, -, own⟩
    · exact (renewed.results page made' ongoing (same.symm.trans given)).mono calls fetches
    · cases made.symm.trans made'
      exact (own given page).mono calls fetches

/-- What a call that is inside its fetch comes to has been fetched since. -/
theorem fetched [Clock τ] (made : session.call? id = some call)
    (fetching : session.stage? id = some .during)
    (ended : (call.fetch.run session.now).2 = .ok value) :
    FetchedSince before session call.key value :=
  ⟨id, call, made, rfl, renewed.ongoing (result?_of_stage? fetching),
    renewed.recorded.mem_fetches fetching, Fetch.outcome_of_run ended⟩

variable [LE τ] [DecidableLE τ]

theorem found {page : α} (fits : Glob.fits CacheKey.leaderboardPattern key = true)
    (found : session.found? key = some page) : FetchedSince before session key (some page) := by
  obtain ⟨entry, present, held, -⟩ := Cache.find?_of_found found
  exact held ▸ renewed.entries fits present

variable [Clock τ]

theorem move (made : session.call? id = some call) (move : Move id call session next) :
    Renewed before next := by
  have grows : session.fetches ⊆ next.fetches := by
    cases move.shown with
    | begins waits entered stages fetches => exact fetches ▸ List.subset_append_left ..
    | still stages fetches | finds waits hit stages fetches | ends come stages fetches =>
      exact fetches ▸ List.Subset.refl _
  refine renewed.advance (renewed.recorded.move made move) move.call? grows made
    (fun page present => renewed.entries page (move.find?_of_find? present)) fun other => ?_
  cases move.shown with
  | still stages => exact .inl (by rw [result?_eq, result?_eq, stages])
  | finds waits hit stages =>
    refine result?_of_advance stages (result?_of_stage? waits) (fun given page => ?_) other
    cases given
    exact renewed.found page hit
  | begins waits entered stages =>
    refine result?_of_advance stages (result?_of_stage? waits) (fun given => ?_) other
    cases given
  | ends come stages =>
    have fetching := stage?_of_phase? come
    exact result?_of_advance stages (result?_of_stage? fetching)
      (fun given _ => renewed.fetched made fetching (Option.some.inj given)) other

theorem leave (made : session.call? id = some call) {lock : Nat}
    {result : Except Failure (Option α)} (ends : Ending id call session next lock result) :
    Renewed before (next.leave id lock call.key result).1 := by
  have stages := ends.stage?_leave renewed.recorded.consistent call.key
  have record : (next.leave id lock call.key result).1.fetches = session.fetches :=
    (leave_fetches ..).trans ends.fetches
  refine renewed.advance (renewed.recorded.leave made ends)
    (fun other => (call?_leave ..).trans (ends.call? other)) (record ▸ List.Subset.refl _) made
    (fun {key entry} page present => ?_) fun other => ?_
  · rw [leave_cache, Cache.release_entries] at present
    cases ends with
    | found => exact renewed.entries page present
    | fetched come =>
      rcases Cache.find?_settle present with kept | ⟨rfl, ended, -⟩
      · exact renewed.entries page kept
      · exact renewed.fetched made (stage?_of_phase? come) ended
  · cases ends with
    | found come hit =>
      refine result?_of_advance stages (result?_of_stage? (stage?_of_phase? come))
        (fun given page => ?_) other
      cases given
      exact renewed.found page hit
    | fetched come =>
      have fetching := stage?_of_phase? come
      refine result?_of_advance stages (result?_of_stage? fetching) (fun given page => ?_) other
      have kept : ((session.written call).result.bind fun _ => (call.fetch.run session.now).2) =
          .ok _ := Option.some.inj given
      cases written : (session.written call).result with
      | error failure => rw [written] at kept; cases kept
      | ok _ => rw [written] at kept; exact renewed.fetched made fetching kept

theorem step (event : Event τ) : Renewed before (session.step event) := by
  cases event with
  | resume id =>
    exact resume_induction renewed id (fun made moves renewed => renewed.move made moves)
      fun made ends renewed => renewed.leave made ends
  | wait time =>
    have recorded := renewed.recorded.step (.wait time)
    unfold Session.step at recorded ⊢
    dsimp only at recorded ⊢
    split at recorded
    · exact ⟨recorded, renewed.ongoing, renewed.entries, renewed.results⟩
    · exact renewed
  | invalidate =>
    refine ⟨renewed.recorded.step .invalidate, renewed.ongoing,
      fun {key entry} page present => ?_, renewed.results⟩
    exact renewed.entries page (Cache.find?_invalidateLeaderboard.1 present).1

omit renewed in
/-- When the pages are removed nothing is kept under their keys. -/
theorem invalidate (recorded : before.Recorded) : Renewed before (before.step .invalidate) where
  recorded := recorded.step .invalidate
  ongoing := id
  entries := fun {key entry} page present => by
    rw [(Cache.find?_invalidateLeaderboard.1 present).2] at page
    cases page
  results := fun {id call value} page made ongoing given => by
    have same : before.result? id = some (.ok value) := given
    cases ongoing.symm.trans same

/-- Whatever happens after the pages were removed, what is kept under their keys, and given to calls
that were not over, has been fetched since. -/
theorem after (events : List (Event τ)) : Renewed before (session.after events) :=
  after_induction renewed (fun _ event renewed => renewed.step event) events

end Renewed

variable [LE τ] [DecidableLE τ] [Clock τ]

/-- **No page outlives the removal of the pages.** A call for a page that is not over when the pages
are removed, such as one that begins after that, gives what was fetched by a call that was not over
then either, whatever happens before and after. -/
theorem fetchedSince_after {cache : Cache τ α} (idle : cache.pending = []) (now : τ)
    (calls : List (Call τ α)) (earlier later : List (Event τ)) {id : Nat} {call : Call τ α}
    {value : Option α} (made : calls[id]? = some call)
    (page : Glob.fits CacheKey.leaderboardPattern call.key = true)
    (ongoing : ((start cache now calls).after earlier).result? id = none)
    (given : ((start cache now calls).after (earlier ++ .invalidate :: later)).result? id =
      some (.ok value)) :
    FetchedSince ((start cache now calls).after earlier)
      ((start cache now calls).after (earlier ++ .invalidate :: later)) call.key value := by
  have recorded : ((start cache now calls).after earlier).Recorded :=
    after_induction (.start idle now calls) (fun _ event recorded => recorded.step event) earlier
  have renewed := (Renewed.invalidate recorded).after later
  rw [← after_cons, ← after_append] at renewed
  refine renewed.results page ?_ ongoing given
  rw [call?_after, call?_start, made]

def pageCall (page : String) (yields : Nat) : Call Int String :=
  ⟨CacheKey.leaderboard 20 0, ⟨.ok (some page), none⟩, yields, none⟩

/-- Two calls for the first page go through an empty cache. -/
def pageTwice (yields : Nat) (events : List (Event Int)) : Session Int String :=
  (start (.empty true 30) 0 [pageCall "old" yields, pageCall "new" 0]).after events

/-- A page that was fetched before the pages were removed is fetched again. -/
theorem fetchedSince_after_removed :
    (pageTwice 0 [.resume 0]).result? 0 = some (.ok (some "old")) ∧
      (pageTwice 0 ([.resume 0] ++ [.invalidate, .resume 1])).result? 1 =
        some (.ok (some "new")) ∧
      FetchedSince (pageTwice 0 [.resume 0]) (pageTwice 0 ([.resume 0] ++ [.invalidate, .resume 1]))
        (CacheKey.leaderboard 20 0) (some "new") := by
  have made : [pageCall "old" 0, pageCall "new" 0][1]? = some (pageCall "new" 0) := rfl
  exact ⟨by decide +kernel, by decide +kernel, fetchedSince_after rfl 0 _ [.resume 0] [.resume 1]
    made (CacheKey.fits_leaderboard 20 0) (by decide +kernel) (by decide +kernel)⟩

/-- A page that is being fetched while the pages are removed is given to a call that begins
later. -/
theorem not_fetched_after_removal :
    ¬ ∀ id page, (pageTwice 1 [.resume 0]).phase? id = some .arriving →
      (pageTwice 1 [.resume 0, .invalidate, .resume 1, .resume 0, .resume 1]).result? id =
        some (.ok (some page)) →
      ∃ other source, (pageTwice 1 []).call? other = some source ∧
        source.fetch.outcome = .ok (some page) ∧ other ∉ (pageTwice 1 [.resume 0]).fetches := by
  intro refetched
  obtain ⟨other, source, made, outcome, later⟩ := refetched 1 "old" rfl (by decide +kernel)
  rcases other with _ | _ | other
  · exact later (by decide +kernel)
  · cases made
    exact absurd outcome (by decide)
  · cases made

end Session

end ArenaStandings
