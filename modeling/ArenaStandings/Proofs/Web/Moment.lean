import ArenaStandings.Proofs.Arena.Figures
import ArenaStandings.Proofs.Cache.Values
import ArenaStandings.Proofs.Web.Run

/-!
# The moment that figures show

Figures show the moment at which they were read, and this is the one thing in which the service
depends on that moment. It is set aside in values, bodies and what the cache keeps
(`Value.timeless`, `App.timeless`). Setting it aside commutes with reading through the cache
(`App.timeless_throughCache`), so that services that differ in it only serve alike but for it, and
go on to differ in it only (`App.timeless_serve_congr`, `App.timeless_step_advance`).
-/

namespace ArenaStandings

namespace Value

/-- A field with nothing in place of the moment at which figures were last updated. -/
def timelessField (field : String × Value) : String × Value :=
  (field.1, if field.1 = "lastUpdated" then .null else field.2)

/-- A value with nothing in place of the moment at which figures were last updated, if it shows
any. -/
def timeless : Value → Value
  | record fields => .record (fields.map timelessField)
  | value => value

theorem finiteFields_eq_map (fields : List (String × Value)) :
    finiteFields fields = fields.map fun field => (field.1, field.2.finiteOnly) := by
  induction fields with
  | nil => rfl
  | cons field fields ih => rw [finiteFields, ih, List.map_cons]

theorem timeless_finiteOnly (value : Value) :
    value.finiteOnly.timeless = value.timeless.finiteOnly := by
  cases value with
  | record fields =>
    simp only [finiteOnly, timeless, finiteFields_eq_map, List.map_map]
    congr 2
    funext field
    by_cases moment : field.1 = "lastUpdated"
    · simp only [Function.comp_apply, timelessField, moment, ↓reduceIte, finiteOnly]
    · simp only [Function.comp_apply, timelessField, moment, ↓reduceIte]
  | float x =>
    simp only [finiteOnly, timeless]
    cases x.isFinite <;> rfl
  | _ => rfl

end Value

/-- Figures show the moment in one place only. -/
theorem ArenaStats.timeless_toValue (stats : ArenaStats) (moment : String) :
    { stats with lastUpdated := moment }.toValue.timeless = stats.toValue.timeless := by
  simp [ArenaStats.toValue, Value.timeless, Value.timelessField]

/-- The moment at which figures are read shows in them and in nothing else. -/
theorem ArenaStats.timeless_readLive (arenaId moment moment' : String) :
    Value.timeless <$> toValue <$> readLive arenaId moment =
      Value.timeless <$> toValue <$> readLive arenaId moment' := by
  rw [Read.map_map, Read.map_map, readLive, readLive, Read.map_bind, Read.map_bind]
  congr 1
  funext arena?
  cases arena? with
  | none => rfl
  | some arena =>
    dsimp only
    simp only [Read.map_bind]
    congr 1
    funext rounds
    congr 1
    funext eliminations store
    have alike : ∀ elimination, elimination ∈ eliminations ↔ elimination ∈ eliminations :=
      fun _ => Iff.rfl
    have computed := compute_eq_map alike arenaId arena rounds moment moment'
    rw [Read.map_apply, Read.map_apply, computed]
    unfold Read.ofChecked
    cases compute arenaId arena rounds eliminations moment with
    | invalid issues => rfl
    | valid stats =>
      refine congrArg (fun value => Except.ok (value, Trace.empty)) ?_
      exact (timeless_toValue stats moment').symm

def Body.timeless : Body → Body
  | value content => .value content.timeless
  | body => body

def Response.timeless (response : Response) : Response :=
  { response with body := response.body.timeless }

theorem Response.timeless_json (status : Nat) (content : Value) :
    (json status content).timeless = json status content.timeless := by
  simp only [json, timeless, Body.timeless, Value.timeless_finiteOnly]

theorem Response.timeless_ofFailure (failure : Failure) :
    (ofFailure failure).timeless = ofFailure failure := by
  unfold ofFailure
  split <;> rfl

namespace App

variable {τ : Type}

/-- The service with the moments of figures in its cache set aside. -/
def timeless (app : App τ) : App τ := { app with cache := app.cache.map Value.timeless }

end App

def Handled.timeless {τ : Type} (handled : Handled τ) : Handled τ :=
  { handled with app := handled.app.timeless, response := handled.response.timeless }

namespace App

variable {τ : Type} [LE τ] [DecidableLE τ] [Clock τ] [IntCast τ]

theorem timeless_throughCache (app : App τ) (store : Store) (key : String) (ttl : Int)
    (read : Read Value) :
    (app.throughCache store key ttl read).timeless =
      app.timeless.throughCache store key ttl (Value.timeless <$> read) := by
  have fetched := app.cache.getOrSet_map Value.timeless key app.now
    ⟨(read store).map fun found => some found.1, none⟩ (some (ttl : τ))
  have changed : (Fetch.map Value.timeless
      ⟨(read store).map fun found => some found.1, none⟩ : Fetch τ Value) =
      ⟨((Value.timeless <$> read) store).map fun found => some found.1, none⟩ := by
    rw [Read.map_apply]
    unfold Fetch.map
    cases read store <;> rfl
  rw [changed] at fetched
  unfold throughCache timeless Handled.timeless
  dsimp only
  rw [fetched]
  congr 1
  · unfold Fetched.map
    dsimp only
    cases (app.cache.getOrSet app.now key ⟨(read store).map fun found => some found.1, none⟩
        (some (ttl : τ))).result with
    | error failure => exact Response.timeless_ofFailure failure
    | ok value? =>
      cases value? with
      | none => rfl
      | some value => exact Response.timeless_json 200 value
  · rw [Read.map_apply]
    unfold Fetched.map
    dsimp only
    cases (app.cache.getOrSet app.now key ⟨(read store).map fun found => some found.1, none⟩
      (some (ttl : τ))).fetched <;> cases read store <;> rfl

omit [LE τ] [DecidableLE τ] [Clock τ] [IntCast τ] in
/-- How many entries the cache has does not depend on what they show. -/
theorem healthValue_timeless (app : App τ) : app.timeless.healthValue = app.healthValue := by
  unfold healthValue timeless
  dsimp only
  rw [Cache.keys_map]

section Services

variable {first second : App τ} (same : first.timeless = second.timeless)

include same

omit [LE τ] [DecidableLE τ] [Clock τ] [IntCast τ] in
theorem timeless_answer_congr (response : Response) :
    (first.answer response).timeless = (second.answer response).timeless := by
  change (⟨first.timeless, response.timeless, []⟩ : Handled τ) =
    ⟨second.timeless, response.timeless, []⟩
  rw [same]

omit [LE τ] [DecidableLE τ] [Clock τ] [IntCast τ] in
theorem setting_eq_of_timeless_eq :
    first.startup = second.startup ∧ first.storage = second.storage ∧
      first.manual = second.manual := by
  obtain ⟨startup, storage, -, -, manual⟩ := App.mk.inj same
  exact ⟨startup, storage, manual⟩

/-- Reads that differ in the moment only may be made in each other's place. -/
theorem timeless_throughCache_congr {read read' : Read Value}
    (reads : Value.timeless <$> read = Value.timeless <$> read') (store : Store) (key : String)
    (ttl : Int) :
    (first.throughCache store key ttl read).timeless =
      (second.throughCache store key ttl read').timeless := by
  rw [timeless_throughCache, timeless_throughCache, same, reads]

theorem timeless_leaderboard_congr (target : Target) :
    (first.leaderboard target).timeless = (second.leaderboard target).timeless := by
  obtain ⟨startup, storage, -⟩ := setting_eq_of_timeless_eq same
  unfold leaderboard
  rw [storage, startup]
  split
  · exact timeless_answer_congr same _
  · dsimp only
    split
    · exact timeless_answer_congr same _
    · split
      · exact timeless_answer_congr same _
      · exact timeless_throughCache_congr same rfl ..

theorem timeless_arenaStats_congr (arenaId moment moment' : String) :
    (first.arenaStats arenaId moment).timeless = (second.arenaStats arenaId moment').timeless := by
  obtain ⟨startup, storage, -⟩ := setting_eq_of_timeless_eq same
  unfold arenaStats
  rw [storage, startup]
  split
  · exact timeless_answer_congr same _
  · exact timeless_throughCache_congr same (ArenaStats.timeless_readLive ..) ..

theorem timeless_serve_congr (endpoint : Endpoint) (target : Target) (moment moment' : String) :
    (first.serve endpoint target moment).timeless =
      (second.serve endpoint target moment').timeless := by
  cases endpoint with
  | root => exact timeless_answer_congr same _
  | health =>
    have value : first.healthValue = second.healthValue := by
      rw [← healthValue_timeless, same, healthValue_timeless]
    unfold serve
    dsimp only
    rw [value]
    exact timeless_answer_congr same _
  | leaderboard => exact timeless_leaderboard_congr same target
  | arenaStats arenaId => exact timeless_arenaStats_congr same arenaId moment moment'
  | manual page =>
    obtain ⟨-, -, manual⟩ := setting_eq_of_timeless_eq same
    unfold serve
    dsimp only
    rw [manual]
    exact timeless_answer_congr same _

end Services

/-- Time passes, and pages are removed, whatever the cache shows. -/
theorem timeless_step_advance (app : App τ) (time : τ) :
    (app.step (.advance time)).timeless = app.timeless.step (.advance time) := by
  unfold step advance timeless
  dsimp only
  cases Clock.later app.now time <;> rfl

theorem timeless_step_invalidate (app : App τ) :
    (app.step .invalidate).timeless = app.timeless.step .invalidate := by
  change _ = { app.timeless with cache := (app.cache.map Value.timeless).invalidateLeaderboard.2 }
  rw [Cache.invalidateLeaderboard_map]
  rfl

end App

end ArenaStandings
