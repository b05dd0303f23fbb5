import ArenaStandings.Proofs.Arena.Figures
import ArenaStandings.Proofs.Cache.Calls
import ArenaStandings.Proofs.Web.Staleness

/-!
# The keys of the cache

A request that is turned away (`App.TurnedAway`) is not admitted to the cache and leaves the service
as it is. Of the reads that requests are admitted for only those that succeed are kept, and figures
are read of an arena that is stored. So a run brings no keys into the cache but those of pages of an
accepted length and of such arenas, and a request that is turned away, or is for an unknown arena,
writes nothing (`App.keys_after`).
-/

namespace ArenaStandings

namespace App

/-- A request that is turned away before the cache is looked at. -/
inductive TurnedAway (request : Request) : Prop
  /-- It is answered from its origin. -/
  | preflight (options : request.method = "OPTIONS")
  | method (other : request.method ≠ "GET")
  /-- Its path leads to no endpoint, though it may be redirected. -/
  | nowhere (lost : Endpoint.ofPath? request.target.path = none)
  /-- The length that it asks for is not accepted. -/
  | limit {issues : List Issue}
      (leads : Endpoint.ofPath? request.target.path = some .leaderboard)
      (refused : limitOf request.target = .invalid issues)

variable {τ : Type} [LE τ] [DecidableLE τ] [Clock τ] [IntCast τ]

/-- A request that is turned away leaves the service as it is. -/
theorem TurnedAway.app_handle {request : Request} (away : TurnedAway request) (app : App τ)
    (moment : String) : (app.handle request moment).app = app := by
  rcases app.app_handle_cases request moment with
    same | ⟨get, store, key, ttl, read, -, admitted, -⟩
  · exact same
  · exfalso
    cases away with
    | preflight options => exact absurd (get.symm.trans options) (by decide)
    | method other => exact other get
    | nowhere lost =>
      cases admitted with
      | page leads | figures leads => cases lost.symm.trans leads
    | limit leads refused =>
      cases admitted with
      | page _ accepted => cases refused.symm.trans accepted
      | figures leads' => cases leads.symm.trans leads'

/-- A failed read leaves the entries as a look-up does. -/
theorem entries_throughCache_of_error (app : App τ) {store : Store} {read : Read Value}
    {failure : Failure} (failed : read store = .error failure) (key : String) (ttl : Int) :
    (app.throughCache store key ttl read).app.cache.entries =
      (app.cache.get app.now key).2.entries := by
  have fetched : ((⟨(read store).map fun found => some found.1, none⟩ : Fetch τ Value).run
      app.now).2 = .error failure := by
    rw [failed]
    rfl
  exact Cache.entries_getOrSet_of_error key fetched _

/-- A request for the figures of an arena that is not stored leaves the entries as a look-up
does. -/
theorem entries_handle_of_unknown {app : App τ} {store : Store}
    (connected : app.storage = some store) {request : Request} {arenaId : String}
    (get : request.method = "GET")
    (leads : Endpoint.ofPath? request.target.path = some (.arenaStats arenaId))
    (unknown : ∀ document ∈ store.arenas.documents, document.get "_id" ≠ .text arenaId)
    (moment : String) :
    (app.handle request moment).app.cache.entries =
      (app.cache.get app.now (CacheKey.arenaStats arenaId)).2.entries := by
  have handled : (app.handle request moment).app =
      (app.throughCache store (CacheKey.arenaStats arenaId) app.startup.settings.arenaStatsTtl
        (ArenaStats.toValue <$> ArenaStats.readLive arenaId moment)).app := by
    rw [handle_of_get get leads]
    simp only [serve, arenaStats, connected]
  have failed : ∃ failure,
      (ArenaStats.toValue <$> ArenaStats.readLive arenaId moment) store = .error failure := by
    cases given : (ArenaStats.toValue <$> ArenaStats.readLive arenaId moment) store with
    | error failure => exact ⟨failure, rfl⟩
    | ok found =>
      obtain ⟨stats, trace, reached, -⟩ := read_eq_ok_of_map given
      obtain ⟨document, stored, named⟩ :=
        ArenaStats.exists_arena_of_readLive (Read.result_of_eq_ok reached)
      exact (unknown document stored named).elim
  obtain ⟨failure, failed⟩ := failed
  rw [handled]
  exact app.entries_throughCache_of_error failed _ _

/-! ## Runs -/

/-- An entry stands under the key of a page of an accepted length, or under that of an arena which
was stored when a request wrote it. -/
inductive Filed (first : App τ) (events : List (Event τ)) : String → Entry τ Value → Prop
  | page {limit : Int} (least : 1 ≤ limit) (greatest : limit ≤ greatestLimit) (offset : Nat)
      (entry : Entry τ Value) : Filed first events (CacheKey.leaderboard limit offset) entry
  | figures {arenaId : String} {entry : Entry τ Value} {earlier later : List (Event τ)}
      {request : Request} {moment : String} {store : Store} {document : Record} {stats : ArenaStats}
      (parts : events = earlier ++ .request request moment :: later)
      (connected : (first.after earlier).storage = some store)
      (stored : document ∈ store.arenas.documents) (named : document.get "_id" = .text arenaId)
      (given : (ArenaStats.readLive arenaId moment).result store = .ok stats)
      (holds : entry.value = some stats.toValue)
      (expires : Clock.later (first.after earlier).now
        (first.startup.settings.arenaStatsTtl : τ) = .ok entry.expiry) :
    Filed first events (CacheKey.arenaStats arenaId) entry

theorem Filed.extend {first : App τ} {events : List (Event τ)} {key : String}
    {entry : Entry τ Value} (filed : Filed first events key entry) (event : Event τ) :
    Filed first (events ++ [event]) key entry := by
  cases filed with
  | page least greatest offset => exact .page least greatest offset entry
  | figures parts connected stored named given holds expires =>
    have extended := congrArg (· ++ [event]) parts
    rw [List.append_assoc, List.cons_append] at extended
    exact .figures extended connected stored named given holds expires

/-- What a request writes is filed, and what was there before stays where it was filed. -/
theorem filed_handle {first : App τ} {events : List (Event τ)} {request : Request}
    {moment : String}
    (filed : ∀ key entry, (first.after events).cache.entries.find? key = some entry →
      Filed first events key entry) {key : String} {entry : Entry τ Value}
    (present : ((first.after events).handle request moment).app.cache.entries.find? key =
      some entry) :
    Filed first (events ++ [.request request moment]) key entry := by
  rcases (first.after events).app_handle_cases request moment with
    same | ⟨-, store, other, ttl, read, connected, admitted, through⟩
  · rw [same] at present
    exact (filed key entry present).extend _
  · rw [through] at present
    rcases Cache.find?_getOrSet present with before | ⟨rfl, fetched, expires⟩
    · exact (filed key entry before).extend _
    · cases given : read store with
      | error failure =>
        rw [given] at fetched
        cases fetched
      | ok found =>
        rw [given] at fetched
        rw [after_startup] at admitted
        cases admitted with
        | @page limit offset leads accepted decoded =>
          obtain ⟨least, greatest⟩ := bounds_of_limitOf accepted
          exact .page least greatest offset entry
        | figures leads =>
          obtain ⟨stats, trace, reached, value⟩ := read_eq_ok_of_map given
          have result := Read.result_of_eq_ok reached
          obtain ⟨document, stored, named⟩ := ArenaStats.exists_arena_of_readLive result
          refine .figures rfl connected stored named result ?_ expires
          rw [← value]
          exact (Except.ok.inj fetched).symm

theorem filed_step {first : App τ} {events : List (Event τ)}
    (filed : ∀ key entry, (first.after events).cache.entries.find? key = some entry →
      Filed first events key entry) (event : Event τ) {key : String} {entry : Entry τ Value}
    (present : ((first.after events).step event).cache.entries.find? key = some entry) :
    Filed first (events ++ [event]) key entry := by
  cases event with
  | request request moment => exact filed_handle filed present
  | change change => exact (filed key entry present).extend _
  | advance time =>
    rw [step_advance] at present
    exact (filed key entry present).extend _
  | invalidate =>
    have before := (Cache.find?_invalidateLeaderboard.1 present).1
    exact (filed key entry before).extend _

theorem filed_after {first : App τ} (fresh : first.IsFresh) (events : List (Event τ))
    {key : String} {entry : Entry τ Value}
    (present : (first.after events).cache.entries.find? key = some entry) :
    Filed first events key entry := by
  induction events using List.reverseRecOn generalizing key entry with
  | nil => cases (fresh key).symm.trans present
  | append_singleton events event ih =>
    rw [after_append_singleton] at present
    exact filed_step (fun _ _ before => ih before) event present

/-- **The key space of the cache.** In a run of any length from an app that has just started,
whatever it is connected to and whatever its manual says, every key that the cache holds is that of
a page of one to a hundred players, or that of an arena which was stored when the entry was written.
From there a request that is turned away leaves the service as it is, and a request for an arena
that is not stored leaves the entries as a mere look-up of its key does. -/
theorem keys_after (startup : Startup) (storage : Option Store) (now : τ) (manual : Manual)
    (events : List (Event τ)) :
    let app := (start startup storage now manual).after events
    (∀ key ∈ app.cache.keys, ∃ entry, app.cache.entries.find? key = some entry ∧
        Filed (start startup storage now manual) events key entry) ∧
      (∀ request moment, TurnedAway request → (app.handle request moment).app = app) ∧
      ∀ request moment store arenaId, app.storage = some store → request.method = "GET" →
        Endpoint.ofPath? request.target.path = some (.arenaStats arenaId) →
        (∀ document ∈ store.arenas.documents, document.get "_id" ≠ .text arenaId) →
          (app.handle request moment).app.cache.entries =
            (app.cache.get app.now (CacheKey.arenaStats arenaId)).2.entries := by
  intro app
  refine ⟨fun key held => ?_, fun request moment away => away.app_handle app moment, ?_⟩
  · cases present : app.cache.entries.find? key with
    | none => exact ((Table.find?_eq_none_iff _ _).1 present held).elim
    | some entry => exact ⟨entry, rfl, filed_after (isFresh_start _ _ _ _) events present⟩
  · intro request moment store arenaId connected get leads unknown
    exact entries_handle_of_unknown connected get leads unknown moment

def askFigures (arenaId : String) : Request :=
  ⟨"GET", ⟨"http".toList, "test".toList, none⟩,
    ⟨"/api/arenas/".toList ++ arenaId.toList ++ "/stats".toList, []⟩, []⟩

/-- A storage with one arena. -/
def arenaStore : Store where
  rounds := ⟨[], none⟩
  eliminations := ⟨[], none⟩
  users := ⟨[], none⟩
  arenas := ⟨[[("_id", .text "a")]], none⟩

/-- A page, one of a length that is not accepted, the figures of the arena, and those of another. -/
def visits : List (Event Int) :=
  [.request (askLeaderboard "limit=5") "", .request (askLeaderboard "limit=101") "",
    .request (askFigures "a") "noon", .request (askFigures "b") "noon"]

/-- After these requests the cache holds the keys of the page and of the arena. -/
theorem keys_after_visits :
    let first := start ⟨.default, .info, ⟨[], false⟩⟩ (some arenaStore) 0
    let app := first.after visits
    app.cache.keys = ["leaderboard:5:0", "arena:a:stats"] ∧
      (∀ key ∈ app.cache.keys, ∃ entry, app.cache.entries.find? key = some entry ∧
        Filed first visits key entry) ∧
      (app.handle (askLeaderboard "limit=x") "").app = app ∧
      (app.handle (askFigures "b") "").app.cache.entries =
        (app.cache.get app.now "arena:b:stats").2.entries := by
  intro first app
  obtain ⟨filed, kept, looked⟩ :=
    keys_after ⟨.default, .info, ⟨[], false⟩⟩ (some arenaStore) (0 : Int) .blank visits
  have away : TurnedAway (askLeaderboard "limit=x") := by
    have refused : (limitOf (askLeaderboard "limit=x").target).toOption = none := by decide +kernel
    cases checked : limitOf (askLeaderboard "limit=x").target with
    | valid limit =>
      rw [checked] at refused
      cases refused
    | invalid issues => exact .limit (by decide +kernel) checked
  refine ⟨by decide +kernel, filed, kept _ _ away, ?_⟩
  have connected : app.storage = some arenaStore := by
    simp only [app, visits, after, List.foldl_cons, List.foldl_nil, step, handle_storage]
    rfl
  refine looked (askFigures "b") "" arenaStore "b" connected rfl (by decide +kernel) ?_
  intro document stored
  rw [List.mem_singleton.1 stored]
  simp [Record.get, Record.get?, Table.lookupRows]

end App

end ArenaStandings
