import ArenaStandings.Arena.Live
import ArenaStandings.Cache.Fetch
import ArenaStandings.Config.Startup
import ArenaStandings.Leaderboard.Rebuild
import ArenaStandings.Web.Endpoint
import ArenaStandings.Web.Request
import ArenaStandings.Web.Response

/-!
# The service

An `App` answers requests from the storage, through the cache. `App.handle` gives the app after a
request, the response, and the queries that were made to the storage for it. Pages of the
leaderboard are kept under their length and offset, so cursors that hold one offset share a page;
figures are kept under the arena. A failed read is answered and not kept. Pages of the manual are
given as they are.

Requests of the method OPTIONS are answered from the origin alone. Any other response names a
trusted origin in its headers, except that to an unexpected failure.
-/

namespace ArenaStandings

/-- The service with its storage, if it is connected to one. -/
structure App (τ : Type) where
  startup : Startup
  storage : Option Store
  cache : Cache τ Value
  now : τ
  manual : Manual

/-- What handling a request comes to. -/
structure Handled (τ : Type) where
  app : App τ
  response : Response
  queries : List Query

namespace App

variable {τ : Type}

/-- The most standings that a page may be asked to have. -/
def greatestLimit : Int := 100

def checkLimit (limit : Int) : Checked Int :=
  if limit < 1 then .refuse (.below 1)
  else if greatestLimit < limit then .refuse (.above greatestLimit)
  else .valid limit

def readLimit (text : String) : Checked Int :=
  ((match Reader.integer (.text text) with
    | .valid limit => checkLimit limit
    | .invalid issues => .invalid issues).under (.key "limit")).under (.key "query")

def answer (app : App τ) (response : Response) : Handled τ := ⟨app, response, []⟩

def rootValue : Value :=
  .record [
    ("name", .text "Survival Arena API"),
    ("version", .text "1.0.0"),
    ("docs", .text "/docs")]

def healthValue (app : App τ) : Value :=
  .record [
    ("status", .text "ok"),
    ("database", .text (if app.storage.isSome then "connected" else "disconnected")),
    ("cache_entries", .int app.cache.keys.length)]

/-- The methods that an endpoint knows. -/
def methodsOf (app : App τ) : Endpoint → List String
  | .manual _ => app.manual.methods
  | _ => ["GET"]

theorem get_mem_methodsOf (app : App τ) (endpoint : Endpoint) :
    "GET" ∈ app.methodsOf endpoint := by
  cases endpoint with
  | manual page => exact app.manual.get_mem_methods
  | root | health | leaderboard | arenaStats => exact List.mem_cons_self

section Time

variable [LE τ] [DecidableLE τ] [Clock τ] [IntCast τ]

/-- An app that has just started, with an empty cache. Its manual is blank unless one is given. -/
def start (startup : Startup) (storage : Option Store) (now : τ) (manual : Manual := .blank) :
    App τ :=
  { startup := startup
    storage := storage
    cache := .empty startup.settings.cacheEnabled (startup.settings.leaderboardTtl : τ)
    now := now
    manual := manual }

/-- Answer with what a read gives, through the cache. The read takes no time. -/
def throughCache (app : App τ) (store : Store) (key : String) (ttl : Int) (read : Read Value) :
    Handled τ :=
  let outcome := read store
  let fetch : Fetch τ Value := ⟨outcome.map fun found => some found.1, none⟩
  let fetched := app.cache.getOrSet app.now key fetch (some (ttl : τ))
  { app := { app with cache := fetched.cache }
    response := match fetched.result with
      | .ok (some value) => .json 200 value
      | .ok none => .internalError
      | .error failure => .ofFailure failure
    queries := match fetched.fetched, outcome with
      | true, .ok found => found.2.queries
      | _, _ => [] }

def leaderboard (app : App τ) (target : Target) : Handled τ :=
  match app.storage with
  | none => app.answer .internalError
  | some store =>
    let text := target.parameter? "limit"
    match text.elim (.valid Leaderboard.defaultLimit) readLimit with
    | .invalid issues => app.answer (.unprocessable (text.getD "") issues)
    | .valid limit =>
      let cursor := target.parameter? "cursor"
      match Cursor.decode cursor with
      | .error _ => app.answer .internalError
      | .ok offset =>
        app.throughCache store (CacheKey.leaderboard limit offset)
          app.startup.settings.leaderboardTtl
          (Page.toValue <$> Leaderboard.readPage limit cursor)

/-- Answer with the figures of an arena, at a moment. -/
def arenaStats (app : App τ) (arenaId moment : String) : Handled τ :=
  match app.storage with
  | none => app.answer .internalError
  | some store =>
    app.throughCache store (CacheKey.arenaStats arenaId) app.startup.settings.arenaStatsTtl
      (ArenaStats.toValue <$> ArenaStats.readLive arenaId moment)

/-- Answer for an endpoint. -/
def serve (app : App τ) (endpoint : Endpoint) (target : Target) (moment : String) : Handled τ :=
  match endpoint with
  | .root => app.answer (.json 200 rootValue)
  | .health => app.answer (.json 200 app.healthValue)
  | .leaderboard => app.leaderboard target
  | .arenaStats arenaId => app.arenaStats arenaId moment
  | .manual page => app.answer (app.manual.respond page)

/-- Find the endpoint of a request and answer for it. -/
def dispatch (app : App τ) (request : Request) (moment : String) : Handled τ :=
  match Endpoint.ofPath? request.target.path with
  | some endpoint =>
    if request.method ∈ app.methodsOf endpoint then app.serve endpoint request.target moment
    else app.answer (.methodNotAllowed (app.methodsOf endpoint))
  | none =>
    match Endpoint.redirect? request.target.path with
    | some path => app.answer ((request.addressOf? path).elim .internalError .redirect)
    | none => app.answer .notFound

def originHeaders (origin : String) : List (String × String) :=
  [("access-control-allow-origin", origin), ("access-control-allow-credentials", "true")]

/-- The response to a request of the method OPTIONS. -/
def preflight (app : App τ) (origin : String) : Response :=
  if app.startup.origins.allows origin then
    ⟨200, originHeaders origin ++ [
      ("access-control-allow-methods", "GET, OPTIONS"),
      ("access-control-allow-headers",
        "Authorization, Content-Type, Accept, Origin, X-Requested-With"),
      ("access-control-max-age", "86400")], .empty⟩
  else ⟨403, [], .text "Origin not allowed"⟩

/-- Name a trusted origin in a response, unless it is to an unexpected failure. -/
def nameOrigin (app : App τ) (origin : String) (response : Response) : Response :=
  if app.startup.origins.allows origin ∧ response.status ≠ 500 then
    { response with headers := response.headers ++ originHeaders origin }
  else response

/-- Handle a request at a moment. -/
def handle (app : App τ) (request : Request) (moment : String) : Handled τ :=
  if request.method = "OPTIONS" then app.answer (app.preflight request.origin)
  else
    let handled := app.dispatch request moment
    let response := app.nameOrigin request.origin handled.response
    { handled with
      response := if request.method = "HEAD" then response.withoutBody else response }

def advance (app : App τ) (seconds : τ) : Except Failure (App τ) :=
  (Clock.later app.now seconds).map fun later => { app with now := later }

end Time

/-- Change the storage, if the app is connected to one. -/
def changeStorage (app : App τ) (change : Store → Store) : App τ :=
  { app with storage := app.storage.map change }

/-- Remove the pages of the leaderboard from the cache, and say how many they were. -/
def invalidateLeaderboard (app : App τ) : Nat × App τ :=
  let (removed, cache) := app.cache.invalidateLeaderboard
  (removed, { app with cache := cache })

end App

end ArenaStandings
