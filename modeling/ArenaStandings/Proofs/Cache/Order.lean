import ArenaStandings.Proofs.Cache.LockTable

/-!
# Locks are got in order

If calls begin in order, those that have not begun come after all others, and a lock is held and
waited for in order (`Session.Ordered`): moves of the first call that has not begun, of calls that
have, and leaving a lock keep this.
-/

namespace ArenaStandings

namespace Session

variable {τ α : Type} {session next : Session τ α} {id : Nat} {call : Call τ α}

/-- Calls that have not begun come after all others, and a lock is held and waited for in order. -/
structure Ordered (session : Session τ α) : Prop where
  arrivals : ∀ {first second phase}, session.phase? first = some .arriving →
    session.phase? second = some phase → phase ≠ .arriving → second < first
  holder_lt : ∀ {lock id other}, (session.mutex lock).holder = some id →
    other ∈ (session.mutex lock).queue → id < other
  ascending : ∀ lock, (session.mutex lock).queue.Pairwise (· < ·)

/-- A call is the first of those that have not begun, if there are any. -/
def First (session : Session τ α) (id : Nat) : Prop :=
  ∀ other, session.phase? other = some .arriving → id ≤ other

namespace Ordered

theorem start (cache : Cache τ α) (now : τ) (calls : List (Call τ α)) :
    (Session.start cache now calls).Ordered where
  arrivals := fun {_ second phase} _ come begun => by
    rw [phase?_start] at come
    obtain ⟨call, -, rfl⟩ := Option.map_eq_some_iff.1 come
    exact (begun rfl).elim
  holder_lt := by rintro _ _ _ ⟨⟩
  ascending := fun lock => .nil

/-- A call that holds or awaits a lock comes before those that have not begun. -/
theorem lt_of_lock (ordered : session.Ordered) (come : session.phase? id = some .arriving)
    {other lock : Nat} (inside : session.Holds other lock ∨ session.Awaits other lock) :
    other < id := by
  rcases inside with held | waits
  · obtain ⟨phase, come', holds⟩ := Option.bind_eq_some_iff.1 held
    apply ordered.arrivals come come'
    rintro rfl
    cases holds
  · obtain ⟨phase, come', awaits⟩ := Option.bind_eq_some_iff.1 waits
    apply ordered.arrivals come come'
    rintro rfl
    cases awaits

/-- The order stays if the first call goes on, others do not begin, and the locks stay in order. -/
theorem advance (ordered : session.Ordered) (first : session.First id)
    (begun : next.phase? id ≠ some .arriving)
    (others : ∀ other, other ≠ id → next.phase? other = session.phase? other ∨
      (∃ lock, session.phase? other = some (.queued lock)) ∧
        next.phase? other ≠ some .arriving)
    (holder_lt : ∀ {lock id other}, (next.mutex lock).holder = some id →
      other ∈ (next.mutex lock).queue → id < other)
    (ascending : ∀ lock, (next.mutex lock).queue.Pairwise (· < ·)) :
    next.Ordered ∧ next.First id := by
  have still : ∀ other, next.phase? other = some .arriving →
      other ≠ id ∧ session.phase? other = some .arriving := by
    intro other arrives
    have differ : other ≠ id := fun same => begun (same ▸ arrives)
    rcases others other differ with same | ⟨-, gone⟩
    · exact ⟨differ, same ▸ arrives⟩
    · exact (gone arrives).elim
  refine ⟨⟨fun {one two phase} arrives come gone => ?_, holder_lt, ascending⟩,
    fun other arrives => first other (still other arrives).2⟩
  obtain ⟨differ, before⟩ := still one arrives
  by_cases same : two = id
  · have least := first one before
    omega
  · rcases others two same with kept | ⟨⟨lock, waits⟩, -⟩
    · exact ordered.arrivals before (kept ▸ come) gone
    · exact ordered.arrivals before waits (by simp)

theorem leave (ordered : session.Ordered) (consistent : session.Consistent)
    (first : session.First id) {lock : Nat} (held : session.Holds id lock) (key : String)
    (result : Except Failure (Option α)) :
    (session.leave id lock key result).1.Ordered ∧
      (session.leave id lock key result).1.First id := by
  obtain ⟨old, come, -⟩ := Option.bind_eq_some_iff.1 held
  have gone : (session.setPhase id (.finished result)).phase? id = some (.finished result) :=
    phase?_setPhase_self come _
  refine ordered.advance first ?_ (fun other differ => ?_) (fun {other holder waiting} => ?_)
    fun other => ?_
  · rw [phase?_leave]
    split
    · rw [gone]
      intro equal
      cases equal
    · rw [gone]
      intro equal
      cases equal
  · rw [phase?_leave, phase?_setPhase_of_ne differ]
    split
    · rename_i goes
      have waits := (consistent.mem_queue_iff lock other).1 (List.mem_of_head? goes)
      obtain ⟨phase, come', awaits⟩ := Option.bind_eq_some_iff.1 waits
      cases phase <;> cases awaits
      refine .inr ⟨⟨lock, come'⟩, ?_⟩
      rw [come', Option.map_some]
      intro equal
      cases equal
    · exact .inl rfl
  · rw [mutex_leave]
    split
    · intro goes waits
      have ascending := ordered.ascending lock
      cases queue : (session.mutex lock).queue with
      | nil =>
        rw [queue] at goes
        cases goes
      | cons head tail =>
        rw [queue] at goes waits ascending
        cases goes
        exact List.rel_of_pairwise_cons ascending waits
    · exact ordered.holder_lt
  · rw [mutex_leave]
    split
    · exact (ordered.ascending lock).tail
    · exact ordered.ascending other

/-- The order stays if the first call joins the callers of a key and the lock of the key stays in
order. -/
theorem joined (ordered : session.Ordered) (first : session.First id)
    (come : session.phase? id = some .arriving) (key : String) {phase : Phase α}
    (begun : phase ≠ .arriving) {mutex : Mutex}
    (holder_lt : ∀ {holder other}, mutex.holder = some holder → other ∈ mutex.queue →
      holder < other)
    (ascending : mutex.queue.Pairwise (· < ·)) :
    (session.joined id key phase mutex).Ordered ∧
      (session.joined id key phase mutex).First id := by
  have reached : (session.joined id key phase mutex).phase? id = some phase :=
    phase?_setPhase_self come phase
  refine ordered.advance first ?_ (fun other differ => .inl (phase?_setPhase_of_ne differ _ _))
    (fun {lock holder other} held waits => ?_) fun lock => ?_
  · rw [reached]
    exact fun arrives => begun (Option.some.inj arrives)
  · rw [mutex_joined] at held waits
    split at held
    · rename_i same
      rw [if_pos same] at waits
      exact holder_lt held waits
    · rename_i differ
      rw [if_neg differ] at waits
      exact ordered.holder_lt held waits
  · rw [mutex_joined]
    split
    · exact ascending
    · exact ordered.ascending lock

/-- A call that has not begun may take the last place in the queue of a lock. -/
theorem lt_of_mem_append (ordered : session.Ordered) (consistent : session.Consistent)
    (come : session.phase? id = some .arriving) {lock : Nat} {holder : Option Nat}
    {queue : List Nat} (locked : session.mutex lock = ⟨holder, queue⟩) {first other : Nat}
    (held : holder = some first) (waits : other ∈ queue ++ [id]) : first < other := by
  have held' : (session.mutex lock).holder = some first := by rw [locked, held]
  rcases List.mem_append.1 waits with waits | last
  · apply ordered.holder_lt held'
    rw [locked]
    exact waits
  · rw [List.mem_singleton.1 last]
    exact ordered.lt_of_lock come (.inl ((consistent.holder_iff _ _).1 held'))

theorem pairwise_append (ordered : session.Ordered) (consistent : session.Consistent)
    (come : session.phase? id = some .arriving) {lock : Nat} {holder : Option Nat}
    {queue : List Nat} (locked : session.mutex lock = ⟨holder, queue⟩) :
    (queue ++ [id]).Pairwise (· < ·) := by
  have ascending := ordered.ascending lock
  rw [locked] at ascending
  refine List.pairwise_append.2 ⟨ascending, List.pairwise_singleton _ _, ?_⟩
  intro other waits last same
  rw [List.mem_singleton.1 same]
  have awaits : session.Awaits other lock := by
    rw [← consistent.mem_queue_iff, locked]
    exact waits
  exact ordered.lt_of_lock come (.inr awaits)

variable [LE τ] [DecidableLE τ] [Clock τ]

/-- Moves of the first call keep the order. -/
theorem move (ordered : session.Ordered) (consistent : session.Consistent)
    (first : session.First id) (move : Move id call session next) :
    next.Ordered ∧ next.First id := by
  have begun : ∀ {old new : Phase α} {middle : Session τ α}, middle.phase? id = some old →
      new ≠ .arriving → (middle.setPhase id new).phase? id ≠ some .arriving := by
    intro old new middle come gone
    rw [phase?_setPhase_self come]
    exact fun arrives => gone (Option.some.inj arrives)
  cases move with
  | look => exact ⟨⟨ordered.arrivals, ordered.holder_lt, ordered.ascending⟩, first⟩
  | find come | begin come | beginUnlocked come | giveWay come | finish come =>
    exact ordered.advance first (begun come (by simp))
      (fun other differ => .inl (phase?_setPhase_of_ne differ _ _)) ordered.holder_lt
      ordered.ascending
  | take come free =>
    exact ordered.joined first come call.key (by simp) (by rintro _ _ - ⟨⟩) .nil
  | wait come locked busy =>
    exact ordered.joined first come call.key (by simp)
      (ordered.lt_of_mem_append consistent come locked)
      (ordered.pairwise_append consistent come locked)

theorem ending (ordered : session.Ordered) (first : session.First id) {lock : Nat}
    {result : Except Failure (Option α)} (ends : Ending id call session next lock result) :
    next.Ordered ∧ next.First id := by
  cases ends with
  | found => exact ⟨ordered, first⟩
  | fetched => exact ⟨⟨ordered.arrivals, ordered.holder_lt, ordered.ascending⟩, first⟩

end Ordered

end Session

end ArenaStandings
