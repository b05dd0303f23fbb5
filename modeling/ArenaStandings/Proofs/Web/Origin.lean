import ArenaStandings.Proofs.Web.Credentials
import ArenaStandings.Proofs.Web.KeySpace
import ArenaStandings.Proofs.Web.Moment

/-!
# What the origin of a request shows in

Two requests that differ at most in the headers that name an origin (`Request.SameButOrigin`) are
dispatched alike, but for the moment that figures show (`App.timeless_dispatch_congr`): their
responses have one status, one body and the same headers about themselves, the same is asked of the
storage, and the service is left in one state. So it is through any run whose requests differ in
their origins (`App.timeless_after`). Who may see a response is decided by its origin and by nothing
else (`App.alike_but_origin`).
-/

namespace ArenaStandings

/-! ## Requests that differ in their origin -/

/-- Two requests differ at most in the headers that name an origin. -/
structure Request.SameButOrigin (first second : Request) : Prop where
  method : first.method = second.method
  site : first.site = second.site
  target : first.target = second.target
  headers : first.headers.filter (fun header => Case.lower header.1 != "origin") =
    second.headers.filter fun header => Case.lower header.1 != "origin"

namespace Request.SameButOrigin

variable {request request' : Request} (same : request.SameButOrigin request')

include same

/-- They agree on every other header. -/
theorem header? {name : String} (other : name ≠ "origin") :
    request.header? name = request'.header? name := by
  have found : ∀ headers : List (String × String),
      headers.find? (fun header => Case.lower header.1 == name) =
        (headers.filter fun header => Case.lower header.1 != "origin").find?
          fun header => Case.lower header.1 == name := by
    intro headers
    rw [List.find?_filter]
    congr 1
    funext header
    by_cases named : Case.lower header.1 = name
    · simp [named, other]
    · simp [named]
  unfold Request.header?
  rw [found request.headers, found request'.headers, same.headers]

/-- They lead to one address on the host that they are meant for. -/
theorem addressOf? (path : List Char) : request.addressOf? path = request'.addressOf? path := by
  have host : request.header? "host" = request'.header? "host" := same.header? (by decide)
  unfold Request.addressOf? Request.siteText? Request.hostText
  rw [host, same.site, same.target]

end Request.SameButOrigin

namespace App

variable {τ : Type} [LE τ] [DecidableLE τ] [Clock τ] [IntCast τ]

theorem timeless_dispatch_congr {first second : App τ} (same : first.timeless = second.timeless)
    {request request' : Request} (alike : request.SameButOrigin request')
    (moment moment' : String) :
    (first.dispatch request moment).timeless = (second.dispatch request' moment').timeless := by
  have methods : first.methodsOf = second.methodsOf := by
    funext endpoint
    cases endpoint with
    | manual page => exact congrArg Manual.methods (setting_eq_of_timeless_eq same).2.2
    | root | health | leaderboard | arenaStats => rfl
  unfold dispatch
  rw [alike.method, alike.target, methods]
  split
  · split
    · exact timeless_serve_congr same ..
    · exact timeless_answer_congr same _
  · split
    · rw [alike.addressOf?]
      exact timeless_answer_congr same _
    · exact timeless_answer_congr same _

end App

/-! ## Who may see a response -/

namespace Response

/-- Does a header of this name say who may see the response? -/
def isAccess (name : String) : Bool := "access-control-".toList.isPrefixOf name.toList

/-- The headers that say who may see the response. -/
def accessHeaders (response : Response) : List (String × String) :=
  response.headers.filter fun header => isAccess header.1

/-- The headers about the response itself. -/
def ownHeaders (response : Response) : List (String × String) :=
  response.headers.filter fun header => !isAccess header.1

/-- The origin that may see the response. -/
def grantee? (response : Response) : Option String :=
  (response.headers.find? fun header => header.1 == "access-control-allow-origin").map Prod.snd

variable {response : Response} (plain : response.IsPlain)

include plain

theorem IsPlain.isAccess_eq_false {header : String × String}
    (member : header ∈ response.headers) :
    isAccess header.1 = false := by
  have own : ∀ name ∈ ["content-type", "allow", "location"], isAccess name = false := by decide
  exact own header.1 (plain header.1 (List.mem_map_of_mem member))

theorem IsPlain.accessHeaders_eq_nil : response.accessHeaders = [] := by
  apply List.filter_eq_nil_iff.2
  intro header member
  rw [plain.isAccess_eq_false member]
  exact Bool.false_ne_true

theorem IsPlain.ownHeaders_eq : response.ownHeaders = response.headers := by
  apply List.filter_eq_self.2
  intro header member
  rw [plain.isAccess_eq_false member]
  rfl

end Response

/-- Two responses say the same, and leave the service and the storage alike, but for who may see
them and for the moment at which figures were last updated. -/
structure Handled.SameButAccess {τ : Type} (first second : Handled τ) : Prop where
  status : first.response.status = second.response.status
  headers : first.response.ownHeaders = second.response.ownHeaders
  body : first.response.body.timeless = second.response.body.timeless
  queries : first.queries = second.queries
  app : first.app.timeless = second.app.timeless

namespace App

variable {τ : Type}

theorem isAccess_of_mem_originHeaders {origin : String} {header : String × String}
    (member : header ∈ originHeaders origin) : Response.isAccess header.1 = true := by
  have names : ∀ name ∈ (originHeaders origin).map Prod.fst, Response.isAccess name = true := by
    change ∀ name ∈ ["access-control-allow-origin", "access-control-allow-credentials"], _
    decide
  exact names header.1 (List.mem_map_of_mem member)

theorem accessHeaders_nameOrigin (app : App τ) (origin : String) {response : Response}
    (plain : response.IsPlain) :
    (app.nameOrigin origin response).accessHeaders =
      if app.startup.origins.allows origin = true ∧ response.status ≠ 500 then
        originHeaders origin
      else [] := by
  unfold nameOrigin
  split
  · change (response.headers ++ originHeaders origin).filter _ = _
    rw [List.filter_append]
    change response.accessHeaders ++ _ = _
    rw [plain.accessHeaders_eq_nil, List.nil_append]
    exact List.filter_eq_self.2 fun header => isAccess_of_mem_originHeaders
  · exact plain.accessHeaders_eq_nil

theorem ownHeaders_nameOrigin (app : App τ) (origin : String) {response : Response}
    (plain : response.IsPlain) :
    (app.nameOrigin origin response).ownHeaders = response.headers := by
  unfold nameOrigin
  split
  · change (response.headers ++ originHeaders origin).filter _ = _
    rw [List.filter_append]
    change response.ownHeaders ++ _ = _
    rw [plain.ownHeaders_eq, List.append_right_eq_self]
    apply List.filter_eq_nil_iff.2
    intro header member
    rw [isAccess_of_mem_originHeaders member]
    exact Bool.false_ne_true
  · exact plain.ownHeaders_eq

/-- A request of the method OPTIONS is answered with the origin that it names, if that is allowed,
and without any word on who may see the answer otherwise. -/
theorem preflight_cases (app : App τ) (origin : String) :
    if app.startup.origins.allows origin = true then
      (app.preflight origin).status = 200 ∧ (app.preflight origin).grantee? = some origin
    else (app.preflight origin).status = 403 ∧ (app.preflight origin).accessHeaders = [] := by
  unfold preflight
  split <;> exact ⟨rfl, rfl⟩

variable [LE τ] [DecidableLE τ] [Clock τ] [IntCast τ]

/-- A request of any other method is dispatched, and its response then names the origin. -/
theorem handle_of_ne_options (app : App τ) {request : Request}
    (other : request.method ≠ "OPTIONS") (moment : String) :
    let handled := app.dispatch request moment
    let response := app.nameOrigin request.origin handled.response
    app.handle request moment =
      { handled with
        response := if request.method = "HEAD" then response.withoutBody else response } :=
  if_neg other

/-- The origin of a request decides who may see the response, and nothing else does. -/
theorem accessHeaders_handle (app : App τ) {request : Request}
    (other : request.method ≠ "OPTIONS") (moment : String) :
    (app.handle request moment).response.accessHeaders =
      if app.startup.origins.allows request.origin = true ∧
          (app.handle request moment).response.status ≠ 500 then
        originHeaders request.origin
      else [] := by
  have named := app.accessHeaders_nameOrigin request.origin (app.isPlain_dispatch request moment)
  have status : (app.dispatch request moment).response.status =
      (app.nameOrigin request.origin (app.dispatch request moment).response).status :=
    (congrArg Response.status (app.nameOrigin_eq ..)).symm
  rw [status] at named
  rw [app.handle_of_ne_options other]
  dsimp only
  split <;> exact named

section Pairs

variable {first second : App τ} (same : first.timeless = second.timeless)
  {request request' : Request} (alike : request.SameButOrigin request') (moment moment' : String)

include same alike

theorem sameButAccess_handle (other : request.method ≠ "OPTIONS") :
    (first.handle request moment).SameButAccess (second.handle request' moment') := by
  have other' : request'.method ≠ "OPTIONS" := alike.method ▸ other
  have dispatched := timeless_dispatch_congr same alike moment moment'
  have queries := congrArg Handled.queries dispatched
  have app := congrArg Handled.app dispatched
  have status := congrArg (fun handled => handled.response.status) dispatched
  have headers := congrArg (fun handled => handled.response.headers) dispatched
  have body := congrArg (fun handled => handled.response.body) dispatched
  have plain := first.isPlain_dispatch request moment
  have plain' := second.isPlain_dispatch request' moment'
  rw [first.handle_of_ne_options other, second.handle_of_ne_options other', ← alike.method]
  refine ⟨?status, ?headers, ?body, queries, app⟩
  case status =>
    rw [nameOrigin_eq, nameOrigin_eq second]
    split <;> exact status
  case headers =>
    split
    all_goals
      change (nameOrigin ..).ownHeaders = (nameOrigin ..).ownHeaders
      rw [first.ownHeaders_nameOrigin _ plain, second.ownHeaders_nameOrigin _ plain']
      exact headers
  case body =>
    rw [nameOrigin_eq, nameOrigin_eq second]
    split
    · rfl
    · exact body

/-- Whatever the method, the service is left in one state. -/
theorem timeless_handle_congr :
    (first.handle request moment).app.timeless = (second.handle request' moment').app.timeless := by
  by_cases options : request.method = "OPTIONS"
  · have options' : request'.method = "OPTIONS" := alike.method ▸ options
    rw [handle, if_pos options, handle, if_pos options']
    exact same
  · exact (sameButAccess_handle same alike moment moment' options).app

end Pairs

/-! ## Runs -/

/-- What happens to two services is the same, but that requests may differ in their origins and be
handled at different moments. -/
inductive Event.Alike : Event τ → Event τ → Prop
  | request {request request' : Request} (same : request.SameButOrigin request')
    (moment moment' : String) : Alike (.request request moment) (.request request' moment')
  | same (event : Event τ) : Alike event event

/-- Services that differ in the moments of figures only go on to differ in them only. -/
theorem timeless_step {first second : App τ} (same : first.timeless = second.timeless)
    {event event' : Event τ} (alike : event.Alike event') :
    (first.step event).timeless = (second.step event').timeless := by
  cases alike with
  | request alike moment moment' => exact timeless_handle_congr same alike moment moment'
  | same =>
    cases event with
    | request request moment =>
      exact timeless_handle_congr same ⟨rfl, rfl, rfl, rfl⟩ moment moment
    | change change => exact congrArg (App.changeStorage · change) same
    | advance time => rw [timeless_step_advance, timeless_step_advance, same]
    | invalidate => rw [timeless_step_invalidate, timeless_step_invalidate, same]

theorem timeless_after {first second : App τ} (same : first.timeless = second.timeless)
    {events events' : List (Event τ)} (alike : List.Forall₂ Event.Alike events events') :
    (first.after events).timeless = (second.after events').timeless := by
  induction alike generalizing first second with
  | nil => exact same
  | cons alike _ ih => exact ih (timeless_step same alike)

/-- What a request may ask of the storage is one read, whatever its origin, but for the moment that
figures show. -/
theorem Admitted.congr {settings : Settings} {request request' : Request}
    (same : request.SameButOrigin request') {moment key : String} {ttl : Int} {read : Read Value}
    (admitted : Admitted settings request moment key ttl read) (moment' : String) :
    ∃ read', Admitted settings request' moment' key ttl read' ∧
      Value.timeless <$> read = Value.timeless <$> read' := by
  cases admitted with
  | page leads accepted decoded =>
    rw [same.target] at leads accepted decoded ⊢
    exact ⟨_, .page leads accepted decoded, rfl⟩
  | figures leads =>
    rw [same.target] at leads
    exact ⟨_, .figures leads, ArenaStats.timeless_readLive ..⟩

/-- **An origin shows only in who may see the response.** Let two runs of one service differ at most
in the origins of their requests, and two requests after them differ at most in theirs. If their
method is not OPTIONS, they are answered with one status, one body and the same headers about the
response itself, ask the same of the storage, and leave the service in one state, all but for the
moments of figures. The response names its origin if that is allowed, unless something fails that is
not expected to, and says nothing else on who may see it. A request of the method OPTIONS, whatever
it is for, is answered from its origin alone, asks nothing of the storage, and leaves the service as
it is. -/
theorem alike_but_origin (app : App τ) {events events' : List (Event τ)}
    (alike : List.Forall₂ Event.Alike events events') {request request' : Request}
    (same : request.SameButOrigin request') (moment moment' : String) :
    let first := (app.after events).handle request moment
    let second := (app.after events').handle request' moment'
    let allowed := app.startup.origins.allows request.origin = true
    (request.method ≠ "OPTIONS" →
      first.SameButAccess second ∧
      (∀ key ttl read, Admitted app.startup.settings request moment key ttl read →
        ∃ read', Admitted app.startup.settings request' moment' key ttl read' ∧
          Value.timeless <$> read = Value.timeless <$> read') ∧
      first.response.accessHeaders =
        if allowed ∧ first.response.status ≠ 500 then originHeaders request.origin else []) ∧
    (request.method = "OPTIONS" →
      first.app = app.after events ∧ first.queries = [] ∧
      if allowed then first.response.status = 200 ∧ first.response.grantee? = some request.origin
      else first.response.status = 403 ∧ first.response.accessHeaders = []) := by
  intro first second allowed
  constructor
  · intro other
    have access := (app.after events).accessHeaders_handle other moment
    rw [after_startup] at access
    exact ⟨sameButAccess_handle (timeless_after rfl alike) same moment moment' other,
      fun key ttl read admitted => admitted.congr same moment', access⟩
  · intro options
    have answered : first = (app.after events).answer
        ((app.after events).preflight request.origin) := if_pos options
    have cases := (app.after events).preflight_cases request.origin
    rw [after_startup] at cases
    rw [answered]
    exact ⟨rfl, rfl, cases⟩

def askFrom (method path origin : String) : Request :=
  ⟨method, ⟨"http".toList, "test".toList, none⟩, ⟨path.toList, []⟩,
    [("origin", origin)]⟩

theorem sameButOrigin_askFrom (method path origin origin' : String) :
    (askFrom method path origin).SameButOrigin (askFrom method path origin') := by
  have named : (Case.lower "origin" != "origin") = false := by decide +kernel
  refine ⟨rfl, rfl, rfl, ?_⟩
  simp only [askFrom, List.filter_cons, named, Bool.false_eq_true, ↓reduceIte]

/-- A site asks for the figures of an arena, and time passes. -/
def visitFrom (origin moment : String) : List (Event Int) :=
  [.request (askFrom "GET" "/api/arenas/a/stats" origin) moment, .advance 5]

/-- Of two services that were visited from different sites at different moments, one is asked again
from the hosted site and one from another: both give what they keep, and only the hosted site may
see it. -/
theorem alike_but_origin_figures :
    let app : App Int := start productionStartup (some arenaStore) 0
    let visited := app.after (visitFrom "https://x.vercel.app" "noon")
    let visited' := app.after (visitFrom "https://x.org" "dawn")
    let first := visited.handle (askFrom "GET" "/api/arenas/a/stats" "https://x.vercel.app") ""
    let second := visited'.handle (askFrom "GET" "/api/arenas/a/stats" "https://x.org") ""
    first.SameButAccess second ∧ first.response.status = 200 ∧
      first.response.accessHeaders = originHeaders "https://x.vercel.app" ∧
      second.response.accessHeaders = [] ∧
      (visited.handle (askFrom "OPTIONS" "/nowhere" "https://x.vercel.app") "").response.grantee? =
        some "https://x.vercel.app" := by
  intro app visited visited' first second
  have alike : ∀ origin origin' moment moment',
      List.Forall₂ Event.Alike (visitFrom origin moment) (visitFrom origin' moment') :=
    fun origin origin' moment moment' =>
      .cons (.request (sameButOrigin_askFrom _ _ origin origin') moment moment')
        (.cons (.same _) .nil)
  obtain ⟨seen, -, access⟩ := (alike_but_origin app
    (alike "https://x.vercel.app" "https://x.org" "noon" "dawn")
    (sameButOrigin_askFrom "GET" "/api/arenas/a/stats" "https://x.vercel.app" "https://x.org")
    "" "").1 (by decide)
  obtain ⟨-, -, access'⟩ := (alike_but_origin app
    (alike "https://x.org" "https://x.vercel.app" "dawn" "noon")
    (sameButOrigin_askFrom "GET" "/api/arenas/a/stats" "https://x.org" "https://x.vercel.app")
    "" "").1 (by decide)
  obtain ⟨-, -, options⟩ := (alike_but_origin app
    (alike "https://x.vercel.app" "https://x.org" "noon" "dawn")
    (sameButOrigin_askFrom "OPTIONS" "/nowhere" "https://x.vercel.app" "https://x.org")
    "" "").2 rfl
  have status : first.response.status = 200 := by decide +kernel
  rw [if_pos ⟨by decide +kernel, by decide +kernel⟩] at access
  rw [if_neg fun named => absurd named.1 (by decide +kernel)] at access'
  rw [if_pos (by decide +kernel)] at options
  exact ⟨seen, status, access, access', options.2⟩

end App

end ArenaStandings
