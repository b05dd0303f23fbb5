import ArenaStandings.Proofs.Cache.LockTable

/-!
# Stages of a call

As far as others can tell, a call is before, in or after its fetch (`Phase.stage`): where it waits
and how often it gives way does not show. What does show of a move is that the call finds a value,
begins to fetch, or ends a fetch (`Session.Shown`).
-/

namespace ArenaStandings

/-- How far a call has come, as far as others can tell. -/
inductive Stage (α : Type)
  | before
  | during
  | ended (result : Except Failure (Option α))

/-- A call is before, in or after its fetch. -/
def Phase.stage {α : Type} : Phase α → Stage α
  | arriving | queued _ | woken _ => .before
  | fetching _ _ => .during
  | finished result => .ended result

def Stage.result? {α : Type} : Stage α → Option (Except Failure (Option α))
  | ended result => some result
  | before | during => none

namespace Session

variable {τ α : Type} {session next : Session τ α} {id : Nat} {call : Call τ α}

def stage? (session : Session τ α) (id : Nat) : Option (Stage α) :=
  (session.phase? id).map Phase.stage

theorem stage?_setPhase {old : Phase α} (come : session.phase? id = some old) (phase : Phase α)
    (other : Nat) :
    (session.setPhase id phase).stage? other =
      if other = id then some phase.stage else session.stage? other := by
  rw [stage?, phase?_setPhase, come]
  split <;> rfl

theorem stage?_setPhase_of_eq {old : Phase α} (come : session.phase? id = some old)
    {phase : Phase α} (same : phase.stage = old.stage) (other : Nat) :
    (session.setPhase id phase).stage? other = session.stage? other := by
  rw [stage?_setPhase come]
  split
  · rename_i equal
    rw [equal, stage?, come, Option.map_some, same]
  · rfl

/-- A call that joins the callers of its key is still before its fetch. -/
theorem stage?_joined (come : session.phase? id = some .arriving) {phase : Phase α}
    (same : phase.stage = .before) (key : String) (mutex : Mutex) (other : Nat) :
    (session.joined id key phase mutex).stage? other = session.stage? other := by
  have come' : (({ session with cache := (session.cache.acquire key).2 } : Session τ α).setMutex
      (session.lockOf key) mutex).phase? id = some .arriving := come
  exact stage?_setPhase_of_eq come' same other

/-- A call that leaves its lock is over; the one that is handed the lock is still before its
fetch. -/
theorem stage?_leave (consistent : session.Consistent) {lock : Nat} (held : session.Holds id lock)
    (key : String) (result : Except Failure (Option α)) (other : Nat) :
    (session.leave id lock key result).1.stage? other =
      if other = id then some (.ended result) else session.stage? other := by
  obtain ⟨old, come, holds⟩ := Option.bind_eq_some_iff.1 held
  rw [stage?, phase?_leave]
  split
  · rename_i goes
    have waits := (consistent.mem_queue_iff lock other).1 (List.mem_of_head? goes)
    obtain ⟨phase, come', awaits⟩ := Option.bind_eq_some_iff.1 waits
    cases phase <;> cases awaits
    have differ : other ≠ id := by
      rintro rfl
      cases come.symm.trans come'
      cases holds
    rw [phase?_setPhase_of_ne differ, if_neg differ, stage?, come']
    rfl
  · exact stage?_setPhase come (.finished result) other

theorem stage?_of_phase? {phase : Phase α} (come : session.phase? id = some phase) :
    session.stage? id = some phase.stage := by
  rw [stage?, come, Option.map_some]

/-- What a call came to shows in its stage. -/
theorem result?_eq (session : Session τ α) (id : Nat) :
    session.result? id = (session.stage? id).bind Stage.result? := by
  rw [result?, stage?, phase?]
  cases session.calls[id]? with
  | none => rfl
  | some running =>
    obtain ⟨call, phase⟩ := running
    cases phase <;> rfl

theorem result?_of_stage? {stage : Stage α} (come : session.stage? id = some stage) :
    session.result? id = stage.result? := by
  rw [result?_eq, come, Option.bind_some]

theorem result?_eq_some_iff {result : Except Failure (Option α)} :
    session.result? id = some result ↔ session.stage? id = some (.ended result) := by
  rw [result?_eq]
  rcases session.stage? id with _ | _ | _ | _ <;> simp [Stage.result?]

/-- Where the stage of one call is set, what the others came to stays. -/
theorem result?_of_stages {stage : Stage α}
    (stages : ∀ other,
      next.stage? other = if other = id then some stage else session.stage? other)
    (other : Nat) :
    next.result? other = if other = id then stage.result? else session.result? other := by
  rw [result?_eq, result?_eq, stages]
  split <;> rfl

variable [LE τ] [DecidableLE τ] [Clock τ]

/-- What shows of a call that comes to a result and leaves its lock. -/
theorem Ending.stage?_leave (consistent : session.Consistent) {lock : Nat}
    {result : Except Failure (Option α)} (ends : Ending id call session next lock result)
    (key : String) (other : Nat) :
    (next.leave id lock key result).1.stage? other =
      if other = id then some (.ended result) else session.stage? other := by
  obtain ⟨consistent', held⟩ := consistent.ending ends
  rw [Session.stage?_leave consistent' held, stage?, ends.phase?, stage?]

/-- What shows of a move of a call. -/
inductive Shown (id : Nat) (call : Call τ α) (session next : Session τ α) : Prop
  | still (stages : ∀ other, next.stage? other = session.stage? other)
      (fetches : next.fetches = session.fetches)
  | finds {value : α} (waits : session.stage? id = some .before)
      (found : session.found? call.key = some value)
      (stages : ∀ other, next.stage? other =
        if other = id then some (.ended (.ok (some value))) else session.stage? other)
      (fetches : next.fetches = session.fetches)
  /-- A fetch begins under the lock of the key, or without one. -/
  | begins (waits : session.stage? id = some .before)
      (entered : (∃ lock, session.phase? id = some (.woken lock) ∧
        session.found? call.key = none) ∨ session.cache.enabled = false)
      (stages : ∀ other, next.stage? other =
        if other = id then some .during else session.stage? other)
      (fetches : next.fetches = session.fetches ++ [id])
  | ends (fetching : session.phase? id = some (.fetching none 0))
      (stages : ∀ other, next.stage? other =
        if other = id then some (.ended (call.fetch.run session.now).2) else session.stage? other)
      (fetches : next.fetches = session.fetches)

theorem Move.shown (move : Move id call session next) : Shown id call session next := by
  cases move with
  | look => exact .still (fun _ => rfl) rfl
  | find come hit => exact .finds (stage?_of_phase? come) hit (stage?_setPhase come _) rfl
  | take come | wait come => exact .still (stage?_joined come rfl _ _) rfl
  | @begin lock come missed =>
    exact .begins (stage?_of_phase? come) (.inl ⟨lock, come, missed⟩)
      (stage?_setPhase come _) rfl
  | beginUnlocked come off =>
    exact .begins (stage?_of_phase? come) (.inr off) (stage?_setPhase come _) rfl
  | @giveWay lock yields come =>
    have same : (Phase.fetching lock yields : Phase α).stage =
        (Phase.fetching lock (yields + 1)).stage := rfl
    exact .still (stage?_setPhase_of_eq come same) rfl
  | finish come => exact .ends come (stage?_setPhase come _) rfl

end Session

end ArenaStandings
