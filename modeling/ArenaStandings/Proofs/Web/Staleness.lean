import ArenaStandings.Proofs.Cache.Keys
import ArenaStandings.Proofs.Web.Run
import Mathlib.Data.List.Induction

/-!
# How old an answer can be

Every entry of the cache is what a read of the storage gave earlier in the run, under the key of
that read and until the moment to which its time leads (`App.Sourced`); a page is so since the last
removal of pages. A run keeps this (`App.sourced_after`). Keys tell the reads apart, except that
cursors which hold one offset share a page, and of these the page is the same. Hence an answer shows
the storage as it was less than its time ago (`App.answer_within`).
-/

namespace ArenaStandings

/-- Less than a time lies between two moments: they are one, or the moment that comes later than the
first by the time has not come. -/
def Clock.Within {τ : Type} [LE τ] [Clock τ] (earlier now time : τ) : Prop :=
  earlier = now ∨ ∃ bound, Clock.later earlier time = .ok bound ∧ ¬ bound ≤ now

/-- On a clock of integers the time between the moments is less. -/
theorem Clock.within_int {earlier now time : Int} (positive : 0 < time) :
    Clock.Within earlier now time ↔ now - earlier < time := by
  constructor
  · rintro (rfl | ⟨bound, ⟨⟩, fresh⟩)
    · omega
    · omega
  · intro less
    exact .inr ⟨earlier + time, rfl, by omega⟩

/-- The same holds of integers among other numbers. -/
theorem Clock.within_number {earlier now time : Int} (positive : 0 < time) :
    Clock.Within (Number.int earlier) (.int now) (.int time) ↔ now - earlier < time := by
  constructor
  · rintro (same | ⟨bound, ⟨⟩, fresh⟩)
    · cases same
      omega
    · rw [Number.int_le_int] at fresh
      omega
  · intro less
    exact .inr ⟨.int (earlier + time), rfl, by rw [Number.int_le_int]; omega⟩

/-- Cursors that hold one offset have one page. -/
theorem Leaderboard.readPage_congr {cursor other : Option String}
    (same : Cursor.decode cursor = Cursor.decode other) (limit : Int) :
    Leaderboard.readPage limit cursor = Leaderboard.readPage limit other := by
  simp only [Leaderboard.readPage, Page.cut, same]

namespace App

variable {τ : Type} [LE τ] [DecidableLE τ] [Clock τ] [IntCast τ]

/-- An entry is what a read gave at an earlier moment of a run, and is kept until the moment to
which its time leads from there. Pages have not been removed since. -/
inductive Sourced (first : App τ) (events : List (Event τ)) (key : String)
    (entry : Entry τ Value) : Prop
  | intro {earlier later : List (Event τ)} {store : Store} {ttl : Int} {read : Read Value}
    {found : Value × Trace} (parts : events = earlier ++ later)
    (kept : Glob.fits CacheKey.leaderboardPattern key = true → .invalidate ∉ later)
    (connected : (first.after earlier).storage = some store)
    (keeps : Keeps first.startup.settings key ttl read) (given : read store = .ok found)
    (holds : entry.value = some found.1)
    (expires : Clock.later (first.after earlier).now (ttl : τ) = .ok entry.expiry)

/-- The source of an entry stays what it is, unless pages are removed and it is one. -/
theorem Sourced.extend {first : App τ} {events : List (Event τ)} {key : String}
    {entry : Entry τ Value} (sourced : Sourced first events key entry) {event : Event τ}
    (kept : event = .invalidate → Glob.fits CacheKey.leaderboardPattern key = false) :
    Sourced first (events ++ [event]) key entry := by
  obtain @⟨earlier, later, store, ttl, read, found, parts, since, connected, keeps, given, holds,
    expires⟩ := sourced
  have extended : events ++ [event] = earlier ++ (later ++ [event]) := by
    rw [parts, List.append_assoc]
  refine .intro extended ?_ connected keeps given holds expires
  intro fits member
  rcases List.mem_append.1 member with old | new
  · exact since fits old
  · rw [kept (List.mem_singleton.1 new).symm] at fits
    cases fits

/-- Every entry of the cache has a source in the run. -/
theorem sourced_step {first : App τ} {events : List (Event τ)}
    (sourced : ∀ key entry, (first.after events).cache.entries.find? key = some entry →
      Sourced first events key entry) (event : Event τ) {key : String} {entry : Entry τ Value}
    (present : ((first.after events).step event).cache.entries.find? key = some entry) :
    Sourced first (events ++ [event]) key entry := by
  cases event with
  | request request moment =>
    rcases find?_handle present with before | ⟨store, ttl, read, found, connected, keeps, given,
      holds, expires⟩
    · exact (sourced key entry before).extend (by simp)
    · rw [after_startup] at keeps
      refine .intro rfl ?_ connected keeps given holds expires
      rintro - (_ | ⟨_, ⟨⟩⟩)
  | change change => exact (sourced key entry present).extend (by simp)
  | advance time =>
    rw [step_advance] at present
    exact (sourced key entry present).extend (by simp)
  | invalidate =>
    obtain ⟨left, outside⟩ := Cache.find?_invalidateLeaderboard.1 present
    exact (sourced key entry left).extend fun _ => outside

/-- **Entries have sources.** In a run from an app that has kept nothing yet, every entry is what a
read gave earlier in the run. -/
theorem sourced_after {first : App τ} (fresh : first.IsFresh) (events : List (Event τ))
    {key : String} {entry : Entry τ Value}
    (present : (first.after events).cache.entries.find? key = some entry) :
    Sourced first events key entry := by
  induction events using List.reverseRecOn generalizing key entry with
  | nil => cases (fresh key).symm.trans present
  | append_singleton events event ih =>
    rw [after_append_singleton] at present
    exact sourced_step (fun _ _ before => ih before) event present

/-! ## Answers -/

/-- A body shows the page of a length at a cursor as the storage had it in a run: less than the time
to keep pages ago, and after the last removal of pages. -/
def ShowsPage (first : App τ) (events : List (Event τ)) (limit : Int) (cursor : Option String)
    (body : Body) : Prop :=
  ∃ earlier later store page trace,
    events = earlier ++ later ∧ .invalidate ∉ later ∧
    (first.after earlier).storage = some store ∧
    Clock.Within (first.after earlier).now (first.after events).now
      (first.startup.settings.leaderboardTtl : τ) ∧
    Leaderboard.readPage limit cursor store = .ok (page, trace) ∧
    body = (Response.json 200 page.toValue).body

/-- A body shows the figures of an arena as the storage had them in a run less than the time to keep
figures ago; when they were last updated is up to the service that read them. -/
def ShowsFigures (first : App τ) (events : List (Event τ)) (arenaId : String) (body : Body) :
    Prop :=
  ∃ earlier later store moment stats trace,
    events = earlier ++ later ∧
    (first.after earlier).storage = some store ∧
    Clock.Within (first.after earlier).now (first.after events).now
      (first.startup.settings.arenaStatsTtl : τ) ∧
    ArenaStats.readLive arenaId moment store = .ok (stats, trace) ∧
    body = (Response.json 200 stats.toValue).body

/-- What a read of a value gives is the value of what the read gives. -/
theorem read_eq_ok_of_map {β : Type} {read : Read β} {toValue : β → Value} {store : Store}
    {found : Value × Trace} (given : (toValue <$> read) store = .ok found) :
    ∃ value trace, read store = .ok (value, trace) ∧ found.1 = toValue value := by
  change Read.bind read (fun value => Read.pure (toValue value)) store = .ok found at given
  unfold Read.bind at given
  split at given
  · cases given
  · rename_i value trace reached
    cases given
    exact ⟨value, trace, reached, rfl⟩

/-- A page that is asked for as it should be comes through the cache. -/
theorem leaderboard_of_accepted {app : App τ} {target : Target} {store : Store} {limit : Int}
    {offset : Nat} (connected : app.storage = some store) (accepted : limitOf target = .valid limit)
    (decoded : Cursor.decode (target.parameter? "cursor") = .ok offset) :
    app.leaderboard target =
      app.throughCache store (CacheKey.leaderboard limit offset) app.startup.settings.leaderboardTtl
        (Page.toValue <$> Leaderboard.readPage limit (target.parameter? "cursor")) := by
  rw [limitOf] at accepted
  simp only [leaderboard, connected, accepted, decoded]

/-- A page that is answered well was asked for as it should be, and comes through the cache. -/
theorem leaderboard_eq_throughCache {app : App τ} {target : Target}
    (answered : (app.leaderboard target).response.status = 200) :
    ∃ (store : Store) (limit : Int) (offset : Nat), app.storage = some store ∧
      limitOf target = .valid limit ∧
      Cursor.decode (target.parameter? "cursor") = .ok offset ∧
      app.leaderboard target =
        app.throughCache store (CacheKey.leaderboard limit offset)
          app.startup.settings.leaderboardTtl
          (Page.toValue <$> Leaderboard.readPage limit (target.parameter? "cursor")) := by
  cases connected : app.storage with
  | none =>
    simp only [leaderboard, connected] at answered
    cases answered
  | some store =>
    cases accepted : limitOf target with
    | invalid issues =>
      rw [limitOf] at accepted
      simp only [leaderboard, connected, accepted] at answered
      cases answered
    | valid limit =>
      cases decoded : Cursor.decode (target.parameter? "cursor") with
      | error failure =>
        rw [limitOf] at accepted
        simp only [leaderboard, connected, accepted, decoded] at answered
        cases answered
      | ok offset =>
        exact ⟨store, limit, offset, rfl, rfl, rfl,
          leaderboard_of_accepted connected accepted decoded⟩

/-- Figures that are answered well come through the cache. -/
theorem arenaStats_eq_throughCache {app : App τ} {arenaId moment : String}
    (answered : (app.arenaStats arenaId moment).response.status = 200) :
    ∃ store, app.storage = some store ∧
      app.arenaStats arenaId moment =
        app.throughCache store (CacheKey.arenaStats arenaId) app.startup.settings.arenaStatsTtl
          (ArenaStats.toValue <$> ArenaStats.readLive arenaId moment) := by
  cases connected : app.storage with
  | none =>
    simp only [arenaStats, connected] at answered
    cases answered
  | some store =>
    refine ⟨store, rfl, ?_⟩
    simp only [arenaStats, connected]

/-- A read through the cache that is answered well shows what a read under its key gave less than
its time ago. -/
theorem response_throughCache_after {first : App τ} (fresh : first.IsFresh)
    (events : List (Event τ)) {store : Store} {key : String} {ttl : Int} {read : Read Value}
    (connected : (first.after events).storage = some store)
    (keeps : Keeps first.startup.settings key ttl read)
    (answered : ((first.after events).throughCache store key ttl read).response.status = 200) :
    ∃ earlier later past ttl' read' found, events = earlier ++ later ∧
      (Glob.fits CacheKey.leaderboardPattern key = true → .invalidate ∉ later) ∧
      (first.after earlier).storage = some past ∧
      Keeps first.startup.settings key ttl' read' ∧ read' past = .ok found ∧
      Clock.Within (first.after earlier).now (first.after events).now (ttl' : τ) ∧
      ((first.after events).throughCache store key ttl read).response = .json 200 found.1 := by
  obtain ⟨value, shown, ⟨entry, present, held, unexpired⟩ | ⟨found, given, rfl⟩⟩ :=
    response_throughCache answered
  · obtain @⟨earlier, later, past, ttl', read', found, parts, since, connected, keeps, given,
      holds, expires⟩ := sourced_after fresh events present
    rw [held] at holds
    cases holds
    exact ⟨earlier, later, past, ttl', read', found, parts, since, connected, keeps, given,
      .inr ⟨entry.expiry, expires, unexpired⟩, shown⟩
  · exact ⟨events, [], store, ttl, read, found, (List.append_nil _).symm,
      fun _ => List.not_mem_nil, connected, keeps, given, .inl rfl, shown⟩

theorem showsPage {first : App τ} (fresh : first.IsFresh) (events : List (Event τ))
    {target : Target}
    (answered : ((first.after events).leaderboard target).response.status = 200) :
    ∃ limit, limitOf target = .valid limit ∧
      ShowsPage first events limit (target.parameter? "cursor")
        ((first.after events).leaderboard target).response.body := by
  obtain ⟨store, limit, offset, connected, accepted, decoded, through⟩ :=
    leaderboard_eq_throughCache answered
  refine ⟨limit, accepted, ?_⟩
  rw [through] at answered ⊢
  rw [after_startup] at answered ⊢
  obtain ⟨earlier, later, past, ttl, read, found, parts, since, connected', keeps, given, within,
    shown⟩ := response_throughCache_after fresh events connected (.page decoded) answered
  rw [shown]
  generalize same : CacheKey.leaderboard limit offset = key at keeps
  cases keeps with
  | @page limit' cursor offset' decoded' =>
    obtain ⟨rfl, equal⟩ := CacheKey.leaderboard_inj.1 same
    obtain rfl := Int.ofNat.inj equal
    rw [Leaderboard.readPage_congr (decoded'.trans decoded.symm)] at given
    obtain ⟨page, trace, reached, value⟩ := read_eq_ok_of_map given
    rw [value]
    exact ⟨earlier, later, past, page, trace, parts, since (CacheKey.fits_leaderboard ..),
      connected', within, reached, rfl⟩
  | figures arenaId moment => exact (CacheKey.leaderboard_ne_arenaStats _ _ _ same).elim

theorem showsFigures {first : App τ} (fresh : first.IsFresh) (events : List (Event τ))
    {arenaId moment : String}
    (answered : ((first.after events).arenaStats arenaId moment).response.status = 200) :
    ShowsFigures first events arenaId
      ((first.after events).arenaStats arenaId moment).response.body := by
  obtain ⟨store, connected, through⟩ := arenaStats_eq_throughCache answered
  rw [through] at answered ⊢
  rw [after_startup] at answered ⊢
  obtain ⟨earlier, later, past, ttl, read, found, parts, -, connected', keeps, given, within,
    shown⟩ := response_throughCache_after fresh events connected (.figures arenaId moment)
      answered
  rw [shown]
  generalize same : CacheKey.arenaStats arenaId = key at keeps
  cases keeps with
  | page decoded => exact (CacheKey.leaderboard_ne_arenaStats _ _ _ same.symm).elim
  | figures other moment' =>
    obtain rfl := CacheKey.arenaStats_inj.1 same
    obtain ⟨stats, trace, reached, value⟩ := read_eq_ok_of_map given
    rw [value]
    exact ⟨earlier, later, past, moment', stats, trace, parts, connected', within, reached, rfl⟩

/-- **Bounded staleness.** In a run of any length from an app that has just started, whatever it is
connected to and whatever its manual says, an answer that is not a refusal shows the storage as it
was less than the time to keep it ago, and a page after the last removal of pages: exactly the body
that the read gives there for the length and the cursor, or the arena, that are asked for now. -/
theorem answer_within (startup : Startup) (storage : Option Store) (now : τ) (manual : Manual)
    (events : List (Event τ)) (request : Request) (moment : String) (get : request.method = "GET")
    (answered : (((start startup storage now manual).after events).handle request
      moment).response.status = 200) :
    (Endpoint.ofPath? request.target.path = some .leaderboard →
      ∃ limit, limitOf request.target = .valid limit ∧
        ShowsPage (start startup storage now manual) events limit
          (request.target.parameter? "cursor")
          (((start startup storage now manual).after events).handle request
            moment).response.body) ∧
    ∀ arenaId, Endpoint.ofPath? request.target.path = some (.arenaStats arenaId) →
      ShowsFigures (start startup storage now manual) events arenaId
        (((start startup storage now manual).after events).handle request
          moment).response.body := by
  constructor
  · intro leads
    rw [handle_of_get get leads] at answered ⊢
    dsimp only at answered ⊢
    rw [nameOrigin_eq] at answered ⊢
    exact showsPage (isFresh_start _ _ _ _) events answered
  · intro arenaId leads
    rw [handle_of_get get leads] at answered ⊢
    dsimp only at answered ⊢
    rw [nameOrigin_eq] at answered ⊢
    exact showsFigures (isFresh_start _ _ _ _) events answered

def askLeaderboard (query : String) : Request :=
  ⟨"GET", ⟨"http".toList, "test".toList, none⟩,
    ⟨"/api/leaderboard".toList, query.toList⟩, []⟩

/-- A page is read for a text that is no cursor, the storage breaks, and time passes. -/
def brokenRun : List (Event Int) :=
  [.request (askLeaderboard "cursor=x") "",
    .change (·.setFault .rounds (some ⟨.storage, "gone"⟩)), .advance 29]

/-- A moment before the page is too old it is still answered, without a query and for another text
of the cursor. -/
theorem answer_within_shared :
    let app := (start ⟨.default, .info, ⟨[], false⟩⟩ (some default) 0).after brokenRun
    (app.handle (askLeaderboard "") "").response.status = 200 ∧
      (app.handle (askLeaderboard "") "").queries = [] ∧
      ∃ limit, limitOf (askLeaderboard "").target = .valid limit ∧
        ShowsPage (start ⟨.default, .info, ⟨[], false⟩⟩ (some default) 0) brokenRun limit
          ((askLeaderboard "").target.parameter? "cursor")
          (app.handle (askLeaderboard "") "").response.body :=
  ⟨by decide +kernel, by decide +kernel,
    (answer_within _ _ _ _ brokenRun (askLeaderboard "") "" rfl (by decide +kernel)).1
      (by decide +kernel)⟩

end App

end ArenaStandings
