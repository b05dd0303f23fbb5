import ArenaStandings.Proofs.Cache.Calls
import ArenaStandings.Proofs.Leaderboard.Faults
import ArenaStandings.Proofs.Web.Staleness

/-!
# Answers when the storage fails

A page that the cache does not have is read from the storage. The answer is good exactly if
everything that the rebuild asks for can be read and the page can be kept: a page that has to be
kept until a moment that cannot be written down is not given either. Otherwise the first fault
counts, and is told as the storage's own or as an internal error; nothing of the page is answered,
and what the cache would give for any key is what it would have given before
(`App.answer_of_faults`).
-/

namespace ArenaStandings

/-- A fault of the storage itself is answered with the part that could not be read, any other as an
internal error. -/
theorem Response.ofFailure_within (part : Part) (fault : Fault) :
    ofFailure (Failure.within part (.raised fault)) =
      if fault.isStorage then detail 503 (Failure.unreadable part).message else internalError := by
  rw [Failure.within]
  split <;> rfl

namespace App

variable {τ : Type} [LE τ] [DecidableLE τ] [Clock τ] [IntCast τ]

/-- What the cache keeps from now on for a time can be kept: the cache is switched off, or the
moment to which the time leads can be written down. -/
def CanKeep (app : App τ) (ttl : Int) : Prop :=
  app.cache.enabled = true → ∃ expiry, Clock.later app.now (ttl : τ) = .ok expiry

/-- A request is answered with the status and the body of a response, and under every key what is
not expired stays. -/
structure Fails (app : App τ) (handled : Handled τ) (response : Response) : Prop where
  status : handled.response.status = response.status
  body : handled.response.body = response.body
  live : ∀ key, handled.app.cache.live? app.now key = app.cache.live? app.now key

variable {app : App τ} {store : Store} {key : String} {ttl : Int} {read : Read Value}

/-- What a read through the cache comes to if nothing is found: what the read comes to, unless its
value would have to be kept and cannot be. -/
theorem result_throughCache_of_missed (missed : (app.cache.get app.now key).1 = none) :
    (app.cache.getOrSet app.now key ⟨(read store).map fun found => some found.1, none⟩
        (some (ttl : τ))).result =
      (read.result store).bind fun value =>
        if app.cache.enabled then (Clock.later app.now (ttl : τ)).map fun _ => some value
        else .ok (some value) := by
  rw [Cache.result_getOrSet_of_missed missed]
  unfold Fetch.run Read.result
  cases read store <;> rfl

/-- A value that is read and can be kept is answered. -/
theorem response_throughCache_of_kept (missed : (app.cache.get app.now key).1 = none)
    {value : Value} (given : read.result store = .ok value) (kept : app.CanKeep ttl) :
    (app.throughCache store key ttl read).response = .json 200 value := by
  have fetched : (app.cache.getOrSet app.now key
      ⟨(read store).map fun found => some found.1, none⟩ (some (ttl : τ))).result =
      .ok (some value) := by
    rw [result_throughCache_of_missed missed, given]
    cases on : app.cache.enabled with
    | false => rfl
    | true =>
      obtain ⟨expiry, moment⟩ := kept on
      simp only [Except.bind, ↓reduceIte, moment, Except.map]
  unfold throughCache
  dsimp only
  rw [fetched]

/-- A call of the cache that fails is answered with its failure, and forgets expired entries
only. -/
theorem fails_throughCache {failure : Failure}
    (failed : (app.cache.getOrSet app.now key ⟨(read store).map fun found => some found.1, none⟩
      (some (ttl : τ))).result = .error failure) :
    app.Fails (app.throughCache store key ttl read) (.ofFailure failure) := by
  have answered : (app.throughCache store key ttl read).response = .ofFailure failure := by
    unfold throughCache
    dsimp only
    rw [failed]
  refine ⟨by rw [answered], by rw [answered], fun other => ?_⟩
  exact (Cache.forgets_getOrSet_of_error rfl failed).live?_eq other

/-- A read that fails is answered with its failure. -/
theorem fails_throughCache_of_failed (missed : (app.cache.get app.now key).1 = none)
    {failure : Failure} (failed : read.result store = .error failure) :
    app.Fails (app.throughCache store key ttl read) (.ofFailure failure) := by
  apply fails_throughCache
  rw [result_throughCache_of_missed missed, failed]
  rfl

/-- A value that cannot be kept is an internal error. -/
theorem fails_throughCache_of_not_kept (missed : (app.cache.get app.now key).1 = none)
    {value : Value} (given : read.result store = .ok value) (unkept : ¬ app.CanKeep ttl) :
    app.Fails (app.throughCache store key ttl read) .internalError := by
  obtain ⟨on, endless⟩ := Classical.not_imp.1 unkept
  cases moment : Clock.later app.now (ttl : τ) with
  | ok expiry => exact (endless ⟨expiry, moment⟩).elim
  | error failure =>
    have internal : failure = .integerTooLarge := by
      unfold Clock.later at moment
      split at moment <;> cases moment
      rfl
    subst internal
    refine fails_throughCache (?_ : _ = Except.error Failure.integerTooLarge)
    rw [result_throughCache_of_missed missed, given]
    simp only [Except.bind, on, ↓reduceIte, moment, Except.map]

/-! ## Pages -/

/-- A page that is asked for as it should be is what comes through the cache, but for the origin
that the answer names. -/
theorem handle_of_accepted {request : Request} {limit : Int} {offset : Nat}
    (connected : app.storage = some store) (get : request.method = "GET")
    (leads : Endpoint.ofPath? request.target.path = some .leaderboard)
    (accepted : limitOf request.target = .valid limit)
    (decoded : Cursor.decode (request.target.parameter? "cursor") = .ok offset) (moment : String) :
    let through := app.throughCache store (CacheKey.leaderboard limit offset)
      app.startup.settings.leaderboardTtl
      (Page.toValue <$> Leaderboard.readPage limit (request.target.parameter? "cursor"))
    app.handle request moment =
      { through with response := app.nameOrigin request.origin through.response } := by
  rw [← leaderboard_of_accepted connected accepted decoded, handle_of_get get leads]
  rfl

omit [Clock τ] [IntCast τ] in
/-- A failure that names an origin fails all the same. -/
theorem Fails.nameOrigin {handled : Handled τ} {response : Response}
    (fails : app.Fails handled response) (origin : String) :
    app.Fails { handled with response := app.nameOrigin origin handled.response } response := by
  refine ⟨?_, ?_, fails.live⟩
  · dsimp only
    rw [nameOrigin_eq]
    exact fails.status
  · dsimp only
    rw [nameOrigin_eq]
    exact fails.body

/-- From a sound storage every page of an accepted length is read. -/
theorem exists_value_of_sound (legible : store.Legible) (sound : Leaderboard.Sound store)
    {target : Target} {limit : Int} {offset : Nat} (accepted : limitOf target = .valid limit)
    (decoded : Cursor.decode (target.parameter? "cursor") = .ok offset) :
    ∃ value,
      (Page.toValue <$> Leaderboard.readPage limit (target.parameter? "cursor")).result store =
        .ok value := by
  obtain ⟨least, greatest⟩ := bounds_of_limitOf accepted
  obtain ⟨page, given⟩ :=
    Leaderboard.exists_page_of_sound legible sound (by omega) greatest decoded
  rw [Read.result_map, given]
  exact ⟨page.toValue, rfl⟩

/-- **Everything or nothing.** On an app that is connected to a storage whose integers can be
written, a request for a page of an accepted length, at a cursor that can be decoded, for which the
cache gives nothing, is answered well exactly if the rebuild can read all that it asks for and the
page can be kept. Otherwise the first fault counts, and if there is none, that the page cannot be
kept. -/
theorem answer_of_faults {request : Request} {limit : Int} {offset : Nat}
    (connected : app.storage = some store) (legible : store.Legible) (get : request.method = "GET")
    (leads : Endpoint.ofPath? request.target.path = some .leaderboard)
    (accepted : limitOf request.target = .valid limit)
    (decoded : Cursor.decode (request.target.parameter? "cursor") = .ok offset)
    (missed : (app.cache.get app.now (CacheKey.leaderboard limit offset)).1 = none)
    (moment : String) :
    let handled := app.handle request moment
    (handled.response.status = 200 ↔
      Leaderboard.Sound store ∧ app.CanKeep app.startup.settings.leaderboardTtl) ∧
    (∀ part fault, Leaderboard.FirstFault store part fault →
      app.Fails handled
        (if fault.isStorage then .detail 503 (Failure.unreadable part).message
          else .internalError)) ∧
    (Leaderboard.Sound store → ¬ app.CanKeep app.startup.settings.leaderboardTtl →
      app.Fails handled .internalError) := by
  intro handled
  have served := handle_of_accepted connected get leads accepted decoded moment
  have faulty : ∀ part fault, Leaderboard.FirstFault store part fault → app.Fails handled
      (if fault.isStorage then .detail 503 (Failure.unreadable part).message
        else .internalError) := by
    intro part fault first
    have failed := Leaderboard.result_readPage_of_firstFault legible first limit
      (request.target.parameter? "cursor")
    have failed' := congrArg (Except.map Page.toValue) failed
    rw [← Read.result_map] at failed'
    rw [← Response.ofFailure_within, show handled = _ from served]
    exact (fails_throughCache_of_failed missed failed').nameOrigin _
  have unkept : Leaderboard.Sound store → ¬ app.CanKeep app.startup.settings.leaderboardTtl →
      app.Fails handled .internalError := by
    intro sound endless
    obtain ⟨value, given⟩ := exists_value_of_sound legible sound accepted decoded
    rw [show handled = _ from served]
    exact (fails_throughCache_of_not_kept missed given endless).nameOrigin _
  refine ⟨⟨fun good => ?_, ?_⟩, faulty, unkept⟩
  · rcases Leaderboard.firstFault_or_sound store with ⟨part, fault, first⟩ | sound
    · have bad := good.symm.trans (faulty part fault first).status
      split at bad <;> cases bad
    · refine ⟨sound, ?_⟩
      by_contra endless
      cases good.symm.trans (unkept sound endless).status
  · rintro ⟨sound, kept⟩
    obtain ⟨value, given⟩ := exists_value_of_sound legible sound accepted decoded
    rw [show handled = _ from served]
    dsimp only
    rw [nameOrigin_eq, response_throughCache_of_kept missed given kept]
    rfl

/-- A storage that gives no eliminations and no users. -/
def brokenStore : Store :=
  ((default : Store).setFault .eliminations (some ⟨.operation, "down"⟩)).setFault .users
    (some ⟨.runtime, "lost"⟩)

/-- A page is read, and then the storage breaks. -/
def outage : List (Event Int) :=
  [.request (askLeaderboard "limit=5") "", .change fun _ => brokenStore]

/-- Another page is then answered with what could not be read, and the first one stays. -/
theorem answer_of_faults_outage :
    let app := (start ⟨.default, .info, ⟨[], false⟩⟩ (some default) 0).after outage
    app.cache.keys = ["leaderboard:5:0"] ∧
      app.Fails (app.handle (askLeaderboard "") "")
        (.detail 503 "Could not read elimination logs") := by
  intro app
  have connected : app.storage = some brokenStore := by
    simp only [app, outage, after, List.foldl_cons, List.foldl_nil, step, changeStorage,
      handle_storage]
    rfl
  have decoded : Cursor.decode ((askLeaderboard "").target.parameter? "cursor") = .ok 0 := by
    decide +kernel
  have missed : (app.cache.get app.now (CacheKey.leaderboard Leaderboard.defaultLimit 0)).1 =
      none := by
    rw [← Option.isNone_iff_eq_none]
    decide +kernel
  obtain ⟨-, faulty, -⟩ :=
    answer_of_faults connected (by decide +kernel) rfl (by decide +kernel)
      (limitOf_of_absent (by decide +kernel)) decoded missed ""
  exact ⟨by decide +kernel, faulty .eliminations _ (.eliminations rfl rfl)⟩

/-- A service that is to keep pages for a time beyond all doubles, at a moment that is a double. -/
def endless : App Number :=
  start ⟨{ Settings.default with leaderboardTtl := Int.pow 10 400 }, .info, ⟨[], false⟩⟩
    (some default) (.float 0.5)

/-- A page that cannot be kept is not answered, though all that it is made of can be read. -/
theorem not_answered_of_endless :
    let request := askLeaderboard ""
    endless.storage = some default ∧ Store.Legible default ∧ request.method = "GET" ∧
      Endpoint.ofPath? request.target.path = some .leaderboard ∧
      limitOf request.target = .valid 20 ∧
      Cursor.decode (request.target.parameter? "cursor") = .ok 0 ∧
      (∀ key, endless.cache.live? endless.now key = none) ∧
      ¬ ((endless.handle request "").response.status = 200 ↔ Leaderboard.Sound default) := by
  intro request
  have status : (endless.handle request "").response.status = 500 := by decide +kernel
  refine ⟨rfl, by decide +kernel, rfl, by decide +kernel, limitOf_of_absent (by decide +kernel),
    by decide +kernel, fun _ => rfl, ?_⟩
  rw [status]
  intro answered
  cases answered.2 ⟨rfl, rfl, .inl rfl⟩

end App

end ArenaStandings
