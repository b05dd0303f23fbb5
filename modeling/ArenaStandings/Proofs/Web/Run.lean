import ArenaStandings.Proofs.Cache.Entries
import ArenaStandings.Web.App

/-!
# Runs of the service

A run of the service is a list of events (`App.Event`): requests of any kind, changes of the
storage, time that passes, and removals of the pages of the leaderboard. `App.after` is the service
that a run leads to. A request changes nothing but the cache, and the cache only by the read that it
is admitted for (`App.app_handle_cases`): one for a page of an accepted length, or for the figures
of an arena (`App.Admitted`). `App.Keeps` says what the service keeps, under which key and for how
long.
-/

namespace ArenaStandings

namespace App

variable {τ : Type}

/-- What can happen to the service. -/
inductive Event (τ : Type)
  /-- A request is handled at a moment. -/
  | request (request : Request) (moment : String)
  /-- The storage changes. -/
  | change (change : Store → Store)
  /-- Time passes. -/
  | advance (time : τ)
  /-- The pages of the leaderboard are removed from the cache. -/
  | invalidate

def limitOf (target : Target) : Checked Int :=
  (target.parameter? "limit").elim (.valid Leaderboard.defaultLimit) readLimit

/-- Where no length is asked for, it is the usual one. -/
theorem limitOf_of_absent {target : Target} (absent : target.parameter? "limit" = none) :
    limitOf target = .valid Leaderboard.defaultLimit := by
  rw [limitOf, absent]
  rfl

/-- An accepted length lies between its bounds. -/
theorem bounds_of_limitOf {target : Target} {limit : Int}
    (accepted : limitOf target = .valid limit) :
    1 ≤ limit ∧ limit ≤ greatestLimit := by
  unfold limitOf at accepted
  generalize target.parameter? "limit" = text? at accepted
  cases text? with
  | none =>
    cases accepted
    decide
  | some text =>
    rw [Option.elim_some, readLimit, Checked.under_eq_valid_iff, Checked.under_eq_valid_iff]
      at accepted
    split at accepted
    · unfold checkLimit at accepted
      split at accepted
      · cases accepted
      · split at accepted
        · cases accepted
        · cases accepted
          omega
    · cases accepted

/-- Under a key and for a time the service keeps what a read gives. -/
inductive Keeps (settings : Settings) : String → Int → Read Value → Prop
  /-- A page is kept under its length and the offset in its cursor. -/
  | page {limit : Int} {cursor : Option String} {offset : Nat}
      (decoded : Cursor.decode cursor = .ok offset) :
    Keeps settings (CacheKey.leaderboard limit offset) settings.leaderboardTtl
      (Page.toValue <$> Leaderboard.readPage limit cursor)
  /-- The figures of an arena are kept under its identifier. -/
  | figures (arenaId moment : String) :
    Keeps settings (CacheKey.arenaStats arenaId) settings.arenaStatsTtl
      (ArenaStats.toValue <$> ArenaStats.readLive arenaId moment)

/-- A request that goes to the cache, with the key, the time and the read that it asks for. -/
inductive Admitted (settings : Settings) (request : Request) (moment : String) :
    String → Int → Read Value → Prop
  | page {limit : Int} {offset : Nat}
      (leads : Endpoint.ofPath? request.target.path = some .leaderboard)
      (accepted : limitOf request.target = .valid limit)
      (decoded : Cursor.decode (request.target.parameter? "cursor") = .ok offset) :
    Admitted settings request moment (CacheKey.leaderboard limit offset) settings.leaderboardTtl
      (Page.toValue <$> Leaderboard.readPage limit (request.target.parameter? "cursor"))
  | figures {arenaId : String}
      (leads : Endpoint.ofPath? request.target.path = some (.arenaStats arenaId)) :
    Admitted settings request moment (CacheKey.arenaStats arenaId) settings.arenaStatsTtl
      (ArenaStats.toValue <$> ArenaStats.readLive arenaId moment)

/-- A request is admitted for what the service keeps. -/
theorem Admitted.keeps {settings : Settings} {request : Request} {moment key : String} {ttl : Int}
    {read : Read Value} (admitted : Admitted settings request moment key ttl read) :
    Keeps settings key ttl read := by
  cases admitted with
  | page _ _ decoded => exact .page decoded
  | figures => exact .figures ..

/-- Naming an origin changes neither the status nor the body. -/
theorem nameOrigin_eq (app : App τ) (origin : String) (response : Response) :
    app.nameOrigin origin response =
      { response with headers := (app.nameOrigin origin response).headers } := by
  unfold nameOrigin
  split <;> rfl

variable [LE τ] [DecidableLE τ] [Clock τ] [IntCast τ]

/-- The service after an event. A clock that cannot show the later moment stays as it is. -/
def step (app : App τ) : Event τ → App τ
  | .request request moment => (app.handle request moment).app
  | .change change => app.changeStorage change
  | .advance time =>
    match app.advance time with
    | .ok later => later
    | .error _ => app
  | .invalidate => app.invalidateLeaderboard.2

def after (app : App τ) (events : List (Event τ)) : App τ := events.foldl step app

@[simp] theorem after_nil (app : App τ) : app.after [] = app := rfl

theorem after_append_singleton (app : App τ) (events : List (Event τ)) (event : Event τ) :
    app.after (events ++ [event]) = (app.after events).step event := by
  simp [after, List.foldl_append]

/-- Nothing has been kept yet. -/
def IsFresh (app : App τ) : Prop := ∀ key, app.cache.entries.find? key = none

omit [LE τ] [DecidableLE τ] [Clock τ] in
theorem isFresh_start (startup : Startup) (storage : Option Store) (now : τ) (manual : Manual) :
    (start startup storage now manual).IsFresh := fun _ => rfl

/-! ## What a request does -/

/-- A request leaves the service as it is, or makes the read that it is admitted for. -/
theorem app_handle_cases (app : App τ) (request : Request) (moment : String) :
    (app.handle request moment).app = app ∨
      request.method = "GET" ∧ ∃ store key ttl read, app.storage = some store ∧
        Admitted app.startup.settings request moment key ttl read ∧
        (app.handle request moment).app = (app.throughCache store key ttl read).app := by
  unfold handle
  split
  · exact .inl rfl
  dsimp only
  unfold dispatch
  split
  · rename_i endpoint leads
    split
    · rename_i known
      cases endpoint with
      | root | health | manual => exact .inl rfl
      | leaderboard =>
        dsimp only [serve]
        unfold leaderboard
        split
        · exact .inl rfl
        · rename_i store connected
          dsimp only
          split
          · exact .inl rfl
          · rename_i limit accepted
            split
            · exact .inl rfl
            · rename_i offset decoded
              exact .inr ⟨List.mem_singleton.1 known, store, _, _, _, connected,
                .page leads accepted decoded, rfl⟩
      | arenaStats arenaId =>
        dsimp only [serve]
        unfold arenaStats
        split
        · exact .inl rfl
        · rename_i store connected
          exact .inr ⟨List.mem_singleton.1 known, store, _, _, _, connected,
            .figures leads, rfl⟩
    · exact .inl rfl
  · split <;> exact .inl rfl

/-- A request either leaves the service as it is or makes one read that the service keeps. -/
theorem app_handle (app : App τ) (request : Request) (moment : String) :
    (app.handle request moment).app = app ∨
      ∃ store key ttl read, app.storage = some store ∧
        Keeps app.startup.settings key ttl read ∧
        (app.handle request moment).app = (app.throughCache store key ttl read).app := by
  rcases app.app_handle_cases request moment with same | ⟨-, store, key, ttl, read, connected,
    admitted, through⟩
  · exact .inl same
  · exact .inr ⟨store, key, ttl, read, connected, admitted.keeps, through⟩

/-- A request of the method GET is answered for its endpoint, but for the origin that it names. -/
theorem handle_of_get {app : App τ} {request : Request} {endpoint : Endpoint}
    (get : request.method = "GET") (leads : Endpoint.ofPath? request.target.path = some endpoint)
    (moment : String) :
    let served := app.serve endpoint request.target moment
    app.handle request moment =
      { served with response := app.nameOrigin request.origin served.response } := by
  simp [handle, dispatch, get, leads, app.get_mem_methodsOf endpoint]

/-- A request changes nothing but the cache. -/
theorem handle_eq (app : App τ) (request : Request) (moment : String) :
    (app.handle request moment).app =
      { app with cache := (app.handle request moment).app.cache } := by
  rcases app.app_handle request moment with same | ⟨store, key, ttl, read, -, -, through⟩
  · rw [same]
  · rw [through]
    rfl

@[simp] theorem handle_storage (app : App τ) (request : Request) (moment : String) :
    (app.handle request moment).app.storage = app.storage := by
  rw [handle_eq]

/-- Time that passes changes nothing but the clock. -/
theorem step_advance (app : App τ) (time : τ) :
    app.step (.advance time) = { app with now := (app.step (.advance time)).now } := by
  unfold step
  dsimp only [advance]
  cases Clock.later app.now time <;> rfl

@[simp] theorem step_startup (app : App τ) (event : Event τ) :
    (app.step event).startup = app.startup := by
  cases event with
  | request request moment => rw [step, handle_eq]
  | change change => rfl
  | advance time => rw [step_advance]
  | invalidate => rfl

/-- The settings stay what they were at the start. -/
@[simp] theorem after_startup (app : App τ) (events : List (Event τ)) :
    (app.after events).startup = app.startup := by
  induction events generalizing app with
  | nil => rfl
  | cons event events ih => exact (ih (app.step event)).trans (app.step_startup event)

/-- An entry that a request leaves behind was there before, or is what a read gave just now. -/
theorem find?_handle {app : App τ} {request : Request} {moment key : String}
    {entry : Entry τ Value}
    (present : (app.handle request moment).app.cache.entries.find? key = some entry) :
    app.cache.entries.find? key = some entry ∨
      ∃ store ttl read found, app.storage = some store ∧
        Keeps app.startup.settings key ttl read ∧ read store = .ok found ∧
        entry.value = some found.1 ∧ Clock.later app.now (ttl : τ) = .ok entry.expiry := by
  rcases app.app_handle request moment with
    same | ⟨store, other, ttl, read, connected, keeps, through⟩
  · rw [same] at present
    exact .inl present
  · rw [through] at present
    rcases Cache.find?_getOrSet present with before | ⟨rfl, fetched, moment⟩
    · exact .inl before
    · refine .inr ⟨store, ttl, read, ?_⟩
      cases given : read store with
      | error failure =>
        rw [given] at fetched
        cases fetched
      | ok found =>
        rw [given] at fetched
        refine ⟨found, connected, keeps, rfl, ?_, moment⟩
        exact (Except.ok.inj fetched).symm

/-- What a read through the cache is answered with, if it is answered well: the value in an entry
that is not expired, or what the read gave just now. -/
theorem response_throughCache {app : App τ} {store : Store} {key : String} {ttl : Int}
    {read : Read Value} (answered : (app.throughCache store key ttl read).response.status = 200) :
    ∃ value, (app.throughCache store key ttl read).response = .json 200 value ∧
      ((∃ entry, app.cache.entries.find? key = some entry ∧ entry.value = some value ∧
          ¬ entry.expiry ≤ app.now) ∨
        ∃ found, read store = .ok found ∧ found.1 = value) := by
  cases result : (app.cache.getOrSet app.now key
      ⟨(read store).map fun found => some found.1, none⟩ (some (ttl : τ))).result with
  | error failure =>
    have shown : (app.throughCache store key ttl read).response = .ofFailure failure := by
      simp only [throughCache, result]
    rw [shown] at answered
    cases failure <;> cases answered
  | ok value? =>
    cases value? with
    | none =>
      have shown : (app.throughCache store key ttl read).response = .internalError := by
        simp only [throughCache, result]
      rw [shown] at answered
      cases answered
    | some value =>
      refine ⟨value, by simp only [throughCache, result], ?_⟩
      rcases Cache.result_getOrSet result with kept | fetched
      · exact .inl kept
      · cases given : read store with
        | error failure =>
          rw [given] at fetched
          cases fetched
        | ok found =>
          rw [given] at fetched
          exact .inr ⟨found, rfl, Option.some.inj (Except.ok.inj fetched)⟩

end App

end ArenaStandings
