import ArenaStandings.Proofs.Config.Origins
import ArenaStandings.Proofs.Web.Run

/-!
# Who is granted credentials

A response grants credentials if it tells the browser to let the page that made the request see what
it got with the credentials of the user (`Response.GrantsCredentials`). Endpoints leave this to the
service (`App.isPlain_dispatch`), which grants credentials to the origins that its environment
trusts (`App.grantsCredentials_iff_trusts`).
-/

namespace ArenaStandings

namespace Response

def GrantsCredentials (response : Response) : Prop :=
  "access-control-allow-credentials" ∈ response.headers.map Prod.fst

/-- A response whose headers are about itself and not about who may see it. -/
def IsPlain (response : Response) : Prop :=
  ∀ name ∈ response.headers.map Prod.fst, name ∈ ["content-type", "allow", "location"]

theorem IsPlain.not_grantsCredentials {response : Response} (plain : response.IsPlain) :
    ¬ response.GrantsCredentials := by
  intro granted
  exact absurd (plain _ granted) (by decide)

theorem isPlain_of_headers_eq {response : Response} {name text : String}
    (only : response.headers = [(name, text)])
    (own : name ∈ ["content-type", "allow", "location"]) : response.IsPlain := by
  intro other member
  rw [only] at member
  rwa [List.mem_singleton.1 member]

theorem isPlain_json (status : Nat) (content : Value) : (json status content).IsPlain :=
  isPlain_of_headers_eq rfl (by decide)

theorem isPlain_methodNotAllowed (known : List String) : (methodNotAllowed known).IsPlain := by
  intro name member
  rcases List.mem_cons.1 member with rfl | member
  · exact List.mem_cons_of_mem _ List.mem_cons_self
  · exact isPlain_json _ _ name member

theorem isPlain_internalError : internalError.IsPlain := isPlain_of_headers_eq rfl (by decide)

theorem isPlain_redirect (address : String) : (redirect address).IsPlain :=
  isPlain_of_headers_eq rfl (by decide)

theorem isPlain_ofFailure (failure : Failure) : (ofFailure failure).IsPlain := by
  unfold ofFailure
  split
  · exact isPlain_json _ _
  · exact isPlain_json _ _
  · exact isPlain_internalError

end Response

namespace App

variable {τ : Type}

/-- Naming an origin grants it credentials, and nothing else does. -/
theorem grantsCredentials_nameOrigin (app : App τ) (origin : String) {response : Response}
    (plain : response.IsPlain) :
    (app.nameOrigin origin response).GrantsCredentials ↔
      app.startup.origins.allows origin = true ∧ response.status ≠ 500 := by
  unfold nameOrigin
  split
  · rename_i named
    refine iff_of_true ?_ named
    rw [Response.GrantsCredentials, List.map_append]
    exact List.mem_append_right _ (List.mem_cons_of_mem _ List.mem_cons_self)
  · rename_i unnamed
    exact iff_of_false plain.not_grantsCredentials unnamed

theorem grantsCredentials_preflight (app : App τ) (origin : String) :
    (app.preflight origin).GrantsCredentials ↔ app.startup.origins.allows origin = true := by
  unfold preflight
  split
  · rename_i allowed
    exact iff_of_true (List.mem_cons_of_mem _ List.mem_cons_self) allowed
  · rename_i refused
    exact iff_of_false List.not_mem_nil refused

theorem status_preflight_ne (app : App τ) (origin : String) :
    (app.preflight origin).status ≠ 500 := by
  unfold preflight
  split <;> exact Nat.ne_of_beq_eq_false rfl

variable [LE τ] [DecidableLE τ] [Clock τ] [IntCast τ]

theorem isPlain_throughCache (app : App τ) (store : Store) (key : String) (ttl : Int)
    (read : Read Value) : (app.throughCache store key ttl read).response.IsPlain := by
  unfold throughCache
  dsimp only
  split
  · exact Response.isPlain_json _ _
  · exact Response.isPlain_internalError
  · exact Response.isPlain_ofFailure _

theorem isPlain_leaderboard (app : App τ) (target : Target) :
    (app.leaderboard target).response.IsPlain := by
  unfold leaderboard
  split
  · exact Response.isPlain_internalError
  · dsimp only
    split
    · exact Response.isPlain_json _ _
    · split
      · exact Response.isPlain_internalError
      · exact app.isPlain_throughCache _ _ _ _

theorem isPlain_arenaStats (app : App τ) (arenaId moment : String) :
    (app.arenaStats arenaId moment).response.IsPlain := by
  unfold arenaStats
  split
  · exact Response.isPlain_internalError
  · exact app.isPlain_throughCache _ _ _ _

/-- No endpoint grants credentials by itself. -/
theorem isPlain_dispatch (app : App τ) (request : Request) (moment : String) :
    (app.dispatch request moment).response.IsPlain := by
  unfold dispatch
  split
  · rename_i endpoint leads
    split
    · cases endpoint with
      | root => exact Response.isPlain_json _ _
      | health => exact Response.isPlain_json _ _
      | leaderboard => exact app.isPlain_leaderboard request.target
      | arenaStats arenaId => exact app.isPlain_arenaStats arenaId moment
      | manual page => exact Response.isPlain_of_headers_eq rfl (by decide)
    · exact Response.isPlain_methodNotAllowed _
  · split
    · rename_i path leads
      change ((request.addressOf? path).elim Response.internalError Response.redirect).IsPlain
      cases request.addressOf? path with
      | none => exact Response.isPlain_internalError
      | some address => exact Response.isPlain_redirect address
    · exact Response.isPlain_json _ _

/-- Credentials are granted to the origins that are allowed, unless something fails that is not
expected to. -/
theorem grantsCredentials_handle (app : App τ) (request : Request) (moment : String) :
    (app.handle request moment).response.GrantsCredentials ↔
      app.startup.origins.allows request.origin = true ∧
        (app.handle request moment).response.status ≠ 500 := by
  unfold handle
  split
  · change (app.preflight request.origin).GrantsCredentials ↔
      _ ∧ (app.preflight request.origin).status ≠ 500
    rw [grantsCredentials_preflight, and_iff_left (app.status_preflight_ne request.origin)]
  · have named := app.grantsCredentials_nameOrigin request.origin
      (app.isPlain_dispatch request moment)
    have status : (app.dispatch request moment).response.status =
        (app.nameOrigin request.origin (app.dispatch request moment).response).status :=
      (congrArg Response.status (app.nameOrigin_eq ..)).symm
    rw [status] at named
    dsimp only
    split <;> exact named

/-- **Only trusted origins are granted credentials.** The service allows the origins that its
environment trusts, and a response grants credentials exactly if the origin of the request is one of
them, except when something fails that is not expected to. -/
theorem grantsCredentials_iff_trusts {environment : Environment} {app : App τ}
    (loaded : Startup.load environment = .ok app.startup) :
    (∀ origin, app.startup.origins.allows origin = true ↔ environment.Trusts origin) ∧
      ∀ (request : Request) (moment : String),
        (app.handle request moment).response.GrantsCredentials ↔
          environment.Trusts request.origin ∧
            (app.handle request moment).response.status ≠ 500 := by
  have allowed := Startup.allows_iff_trusts loaded
  refine ⟨allowed, fun request moment => ?_⟩
  rw [grantsCredentials_handle, allowed]

/-! ## In production -/

def productionEnvironment : Environment := [("APP_ENV", "production")]

/-- What a service in production knows if nothing else is set. -/
def productionStartup : Startup :=
  ⟨{ Settings.default with stage := "production" }, .info,
    ⟨["http://localhost:3000"], true⟩⟩

def askHealth (origin : String) : Request :=
  ⟨"GET", ⟨"http".toList, "test".toList, none⟩, ⟨"/health".toList, []⟩,
    [("origin", origin)]⟩

/-- A hosted site is granted credentials in production. -/
theorem grantsCredentials_iff_trusts_hosted :
    let app : App Int := start productionStartup none 0
    Startup.load productionEnvironment = .ok app.startup ∧
      productionEnvironment.Trusts "https://x.vercel.app" ∧
      (app.handle (askHealth "https://x.vercel.app") "").response.GrantsCredentials := by
  intro app
  have loaded : Startup.load productionEnvironment = .ok app.startup := rfl
  obtain ⟨allowed, granted⟩ := grantsCredentials_iff_trusts loaded
  have trusted := (allowed "https://x.vercel.app").1 (by decide +kernel)
  exact ⟨loaded, trusted,
    (granted (askHealth "https://x.vercel.app") "").2 ⟨trusted, by decide +kernel⟩⟩

/-- What only begins like the address of a hosted site is granted credentials too, though it belongs
to another domain and is not on the list. -/
theorem grantsCredentials_beyond_hosted :
    let app : App Int := start productionStartup none 0
    Startup.load productionEnvironment = .ok app.startup ∧
      app.startup.origins.allows "https://x.vercel.app.evil.com" = true ∧
      (app.handle (askHealth "https://x.vercel.app.evil.com") "").response.GrantsCredentials ∧
      ¬ OriginPolicy.IsEntry "http://localhost:3000" "https://x.vercel.app.evil.com" ∧
      ¬ OriginPolicy.IsHosted "https://x.vercel.app.evil.com" := by
  intro app
  have allowed : app.startup.origins.allows "https://x.vercel.app.evil.com" = true := by
    decide +kernel
  have granted := (app.grantsCredentials_handle (askHealth "https://x.vercel.app.evil.com") "").2
    ⟨allowed, by decide +kernel⟩
  refine ⟨rfl, allowed, granted, ?_, ?_⟩
  · rw [← OriginPolicy.mem_parseList_iff]
    decide +kernel
  · rintro ⟨name, -, same⟩
    have ends : ".vercel.app".toList <:+ "https://x.vercel.app.evil.com".toList := by
      rw [same, String.toList_append]
      exact List.suffix_append ..
    exact absurd ends (by decide +kernel)

end App

end ArenaStandings
