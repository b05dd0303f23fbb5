import ArenaStandings.Proofs.Cache.LockTable
import Mathlib.Algebra.Order.BigOperators.Group.List
import Mathlib.Algebra.Order.Group.Nat

/-!
# The schedule runs calls to their ends

`Session.run` resumes calls in the order in which they became able to go on. The list that it keeps
holds exactly the calls that can go on, each once, and those that have not begun come first and in
order (`Session.Scheduled`). Each time a call is resumed fewer resumptions remain
(`Session.remaining_resume`), so that the list is empty in the end, and then all calls are over
(`Session.Scheduled.finished`).
-/

namespace ArenaStandings

namespace Session

variable {τ α : Type} {session next : Session τ α} {id : Nat} {call : Call τ α}
  {old : Phase α} {ready : Option Nat}

/-- What resuming a call that can go on does to how far the calls have come. -/
structure Resumed (session : Session τ α) (id : Nat) (call : Call τ α) (old : Phase α)
    (next : Session τ α) (ready : Option Nat) : Prop where
  self : ∃ new, next.phase? id = some new ∧ (ready = some id ↔ new.isAble = true) ∧
    new ≠ .arriving ∧ new.resumptions call.yields < old.resumptions call.yields
  /-- Another call goes on if it is handed a lock. -/
  handed : ∀ other, other ≠ id → ready = some other →
    ∃ lock, session.phase? other = some (.queued lock) ∧ next.phase? other = some (.woken lock)
  kept : ∀ other, other ≠ id → ready ≠ some other →
    next.phase? other = session.phase? other

namespace Resumed

variable (resumed : Resumed session id call old next ready)
include resumed

/-- The calls that can go on are those that could before, and the one that goes on because of it. -/
theorem able_iff {other : Nat} (differ : other ≠ id) :
    (∃ phase, next.phase? other = some phase ∧ phase.isAble = true) ↔
      (∃ phase, session.phase? other = some phase ∧ phase.isAble = true) ∨
        ready = some other := by
  by_cases goes : ready = some other
  · obtain ⟨lock, -, woken⟩ := resumed.handed other differ goes
    exact iff_of_true ⟨_, woken, rfl⟩ (.inr goes)
  · rw [resumed.kept other differ goes]
    exact (or_iff_left goes).symm

/-- The other calls that have not begun still have not. -/
theorem arriving {other : Nat} (differ : other ≠ id)
    (arrives : session.phase? other = some .arriving) : next.phase? other = some .arriving := by
  rw [resumed.kept other differ ?_, arrives]
  intro goes
  obtain ⟨lock, waits, -⟩ := resumed.handed other differ goes
  cases waits.symm.trans arrives

/-- A call that is resumed, or had begun, has begun. -/
theorem begun {other : Nat} (was : other = id ∨ session.phase? other ≠ some .arriving) :
    next.phase? other ≠ some .arriving := by
  by_cases same : other = id
  · obtain ⟨new, come, -, gone, -⟩ := resumed.self
    rw [same, come]
    exact fun arrives => gone (Option.some.inj arrives)
  · by_cases goes : ready = some other
    · obtain ⟨lock, -, woken⟩ := resumed.handed other same goes
      rw [woken]
      intro equal
      cases equal
    · rw [resumed.kept other same goes]
      exact was.resolve_left same

/-- The call that goes on because another was resumed has begun. -/
theorem begun_of_ready {other : Nat} (goes : ready = some other) :
    next.phase? other ≠ some .arriving := by
  by_cases same : other = id
  · exact resumed.begun (.inl same)
  · obtain ⟨lock, waits, -⟩ := resumed.handed other same goes
    refine resumed.begun (.inr ?_)
    rw [waits]
    intro equal
    cases equal

end Resumed

/-! ## The list of calls that can go on -/

/-- The list holds the calls that can go on, each once, and those that have not begun in front. -/
structure Scheduled (session : Session τ α) (ready : List Nat) : Prop where
  nodup : ready.Nodup
  mem_iff : ∀ id, id ∈ ready ↔
    ∃ phase, session.phase? id = some phase ∧ phase.isAble = true
  arrivals : ∃ first rest, ready = first ++ rest ∧ first.Pairwise (· < ·) ∧
    (∀ id ∈ first, session.phase? id = some .arriving) ∧
    ∀ id ∈ rest, session.phase? id ≠ some .arriving

/-- The first call in the list is the first of those that have not begun, if there are any. -/
theorem Scheduled.first_arrival {rest : List Nat} (scheduled : session.Scheduled (id :: rest))
    {other : Nat} (come : session.phase? other = some .arriving) : id ≤ other := by
  have member : other ∈ id :: rest := (scheduled.mem_iff other).2 ⟨_, come, rfl⟩
  obtain ⟨first, last, parts, ascending, -, begun⟩ := scheduled.arrivals
  rw [parts] at member
  rcases List.mem_append.1 member with early | late
  · cases first with
    | nil => cases early
    | cons head tail =>
      cases parts
      rcases List.mem_cons.1 early with rfl | behind
      · exact Nat.le_refl _
      · exact Nat.le_of_lt (List.rel_of_pairwise_cons ascending behind)
  · exact (begun other late come).elim

theorem Scheduled.start (cache : Cache τ α) (now : τ) (calls : List (Call τ α)) :
    (Session.start cache now calls).Scheduled (List.range calls.length) := by
  refine ⟨List.nodup_range, fun id => ?_, List.range calls.length, [], (List.append_nil _).symm,
    List.pairwise_lt_range, fun id member => ?_, fun id => by simp⟩
  · rw [phase?_start, List.mem_range]
    constructor
    · intro inRange
      rw [List.getElem?_eq_getElem inRange]
      exact ⟨_, rfl, rfl⟩
    · rintro ⟨phase, reached, -⟩
      obtain ⟨call, here, -⟩ := Option.map_eq_some_iff.1 reached
      exact (List.getElem?_eq_some_iff.1 here).1
  · rw [phase?_start, List.getElem?_eq_getElem (List.mem_range.1 member)]
    rfl

/-- A call that goes on because another was resumed is put at the end of the list. -/
theorem Scheduled.resume {rest : List Nat} (scheduled : session.Scheduled (id :: rest))
    (resumed : Resumed session id call old next ready) :
    next.Scheduled (rest ++ ready.toList) := by
  obtain ⟨new, come, again, -⟩ := resumed.self
  obtain ⟨fresh, nodup⟩ := List.nodup_cons.1 scheduled.nodup
  have absent : ∀ other, ready = some other → other ∉ rest := by
    intro other goes member
    by_cases same : other = id
    · exact fresh (same ▸ member)
    · obtain ⟨lock, waits, -⟩ := resumed.handed other same goes
      obtain ⟨phase, come', able⟩ :=
        (scheduled.mem_iff other).1 (List.mem_cons_of_mem id member)
      cases waits.symm.trans come'
      cases able
  refine ⟨?_, fun other => ?_, ?_⟩
  · refine List.nodup_append.2 ⟨nodup, ?_, ?_⟩
    · cases ready <;> simp
    · rintro other member goes last rfl
      exact absent other (Option.mem_toList.1 last) member
  · rw [List.mem_append, Option.mem_toList]
    by_cases same : other = id
    · subst same
      simp only [fresh, false_or, come, Option.some.injEq, exists_eq_left', again]
    · rw [resumed.able_iff same, ← scheduled.mem_iff, List.mem_cons, or_iff_right same]
  · obtain ⟨first, last, parts, ascending, arriving, begun⟩ := scheduled.arrivals
    have goesOn : ∀ other ∈ ready.toList, next.phase? other ≠ some .arriving :=
      fun other member => resumed.begun_of_ready (Option.mem_toList.1 member)
    cases first with
    | nil =>
      cases parts
      refine ⟨[], _, rfl, .nil, fun _ => by simp, fun other member => ?_⟩
      rcases List.mem_append.1 member with member | member
      · exact resumed.begun (.inr (begun other (List.mem_cons_of_mem id member)))
      · exact goesOn other member
    | cons head first =>
      cases parts
      refine ⟨first, last ++ ready.toList, List.append_assoc ..,
        (List.pairwise_cons.1 ascending).2, fun other member => ?_, fun other member => ?_⟩
      · have differ : other ≠ id := fun same =>
          fresh (same ▸ List.mem_append_left last member)
        exact resumed.arriving differ (arriving other (List.mem_cons_of_mem id member))
      · rcases List.mem_append.1 member with member | member
        · exact resumed.begun (.inr (begun other member))
        · exact goesOn other member

/-- When no call can go on, all calls are over: one that waits would wait for one that can go on. -/
theorem Scheduled.finished (scheduled : session.Scheduled []) (consistent : session.Consistent)
    {phase : Phase α} (come : session.phase? id = some phase) :
    ∃ result, phase = .finished result := by
  have stuck : ∀ {other phase}, session.phase? other = some phase → phase.isAble = false := by
    intro other phase come
    cases able : phase.isAble with
    | false => rfl
    | true => cases (scheduled.mem_iff other).2 ⟨phase, come, able⟩
  cases phase with
  | arriving => cases stuck come
  | woken lock => cases stuck come
  | fetching lock yields => cases stuck come
  | finished result => exact ⟨result, rfl⟩
  | queued lock =>
    have waits : id ∈ (session.mutex lock).queue :=
      (consistent.mem_queue_iff lock id).2 (Option.bind_eq_some_iff.2 ⟨_, come, rfl⟩)
    cases held : (session.mutex lock).holder with
    | none =>
      rw [consistent.queue_eq_nil lock held] at waits
      cases waits
    | some holder =>
      obtain ⟨phase, come', holds⟩ :=
        Option.bind_eq_some_iff.1 ((consistent.holder_iff lock holder).1 held)
      have still := stuck come'
      cases phase <;> cases holds <;> cases still

/-! ## Enough resumptions -/

/-- How often the calls can be resumed from here on, at most. -/
def remaining (calls : List (Call τ α)) (session : Session τ α) : Nat :=
  ((List.range calls.length).map fun id =>
    (session.phase? id).elim 0 (Phase.resumptions ((calls[id]?).elim 0 Call.yields))).foldr
      (· + ·) 0

/-- Each time a call is resumed, fewer resumptions remain. -/
theorem remaining_resume {calls : List (Call τ α)} (here : calls[id]? = some call)
    (come : session.phase? id = some old) (resumed : Resumed session id call old next ready) :
    remaining calls next < remaining calls session := by
  obtain ⟨new, come', -, -, fewer⟩ := resumed.self
  rw [remaining, remaining, ← List.sum_eq_foldr, ← List.sum_eq_foldr]
  refine List.sum_lt_sum _ _ (fun other _ => ?_) ⟨id, ?_, ?_⟩
  · by_cases same : other = id
    · rw [same, come, come', here]
      exact Nat.le_of_lt fewer
    · by_cases goes : ready = some other
      · obtain ⟨lock, waits, woken⟩ := resumed.handed other same goes
        rw [waits, woken]
        exact Nat.le_refl _
      · rw [resumed.kept other same goes]
  · exact List.mem_range.2 (List.getElem?_eq_some_iff.1 here).1
  · rw [come, come', here]
    exact fewer

theorem remaining_start (cache : Cache τ α) (now : τ) (calls : List (Call τ α)) :
    remaining calls (start cache now calls) = resumptions calls := by
  rw [remaining, resumptions]
  congr 1
  apply List.ext_getElem (by simp)
  intro id inRange inRange'
  simp only [List.length_map, List.length_range] at inRange
  simp [phase?_start, inRange, Phase.resumptions]

/-! ## One resumption -/

/-- A call that leaves its lock is over, and the first in the queue is handed the lock. -/
theorem Consistent.resumed_leave (consistent : next.Consistent)
    (able : old.isAble = true) {lock : Nat} (held : next.Holds id lock)
    (elsewhere : ∀ other, other ≠ id → next.phase? other = session.phase? other)
    (key : String) (result : Except Failure (Option α)) :
    Resumed session id call old (next.leave id lock key result).1
      (next.leave id lock key result).2 := by
  obtain ⟨phase, come, holds⟩ := Option.bind_eq_some_iff.1 held
  have waits : ∀ other, (next.mutex lock).queue.head? = some other →
      next.phase? other = some (.queued lock) := by
    intro other goes
    obtain ⟨phase, come', awaits⟩ := Option.bind_eq_some_iff.1
      ((consistent.mem_queue_iff lock other).1 (List.mem_of_head? goes))
    cases phase <;> cases awaits
    exact come'
  have alone : (next.mutex lock).queue.head? ≠ some id := by
    intro goes
    cases come.symm.trans (waits id goes)
    cases holds
  refine ⟨⟨.finished result, ?_, ?_, (by simp), ?_⟩, ?_, ?_⟩
  · rw [phase?_leave, if_neg alone, phase?_setPhase_self come]
  · rw [leave_ready]
    exact iff_of_false alone (by simp [Phase.isAble])
  · cases old <;> first | exact Nat.succ_pos _ | cases able
  · intro other differ goes
    rw [leave_ready] at goes
    refine ⟨lock, (elsewhere other differ).symm.trans (waits other goes), ?_⟩
    rw [phase?_leave, if_pos goes, phase?_setPhase_of_ne differ, waits other goes, Option.map_some]
  · intro other differ stays
    rw [leave_ready] at stays
    rw [phase?_leave, if_neg stays, phase?_setPhase_of_ne differ, elsewhere other differ]

variable [LE τ] [DecidableLE τ] [Clock τ]

theorem Consistent.resumed (consistent : session.Consistent) (made : session.call? id = some call)
    (come : session.phase? id = some old) (able : old.isAble = true) :
    Resumed session id call old (session.resume id).1 (session.resume id).2 := by
  have here := calls_of_call?_phase? made come
  have reached := reached_stretch here able
  rw [resume_eq here]
  cases ended : session.stretch id ⟨call, old⟩ with
  | paused next ready =>
    rw [ended] at reached
    obtain ⟨moves, new, come', rfl, gone, fewer⟩ := reached
    refine ⟨⟨new, come', ?_, gone, fewer⟩, ?_,
      fun other differ _ => moves.phase?_of_ne differ⟩
    · simp [Stretch.left]
    · intro other differ goes
      change (if new.isAble = true then some id else none) = some other at goes
      split at goes
      · exact (differ (Option.some.inj goes).symm).elim
      · cases goes
  | leaving next lock result =>
    rw [ended] at reached
    obtain ⟨last, moves, ends⟩ := reached
    obtain ⟨made', kept⟩ := Moves.induction moves made consistent
      fun made moves consistent => consistent.move made moves
    obtain ⟨consistent', held⟩ := kept.ending ends
    exact consistent'.resumed_leave able held
      (fun other differ => (ends.phase? other).trans (moves.phase?_of_ne differ)) call.key result

/-- **The schedule ends.** What holds at first, and is kept while fewer resumptions remain each
time, holds in the end, when no call can go on. -/
theorem runFor_induction {Kept : List Nat → Session τ α → Prop}
    {weight : Session τ α → Nat}
    (next : ∀ {id ready session}, Kept (id :: ready) session →
      Kept (ready ++ (session.resume id).2.toList) (session.resume id).1 ∧
        weight (session.resume id).1 < weight session)
    (count : Nat) {ready : List Nat} {session : Session τ α} (enough : weight session ≤ count)
    (first : Kept ready session) : Kept [] (runFor count ready session) := by
  induction count generalizing ready session with
  | zero =>
    cases ready with
    | nil => exact first
    | cons id ready =>
      have fewer := (next first).2
      omega
  | succ count ih =>
    cases ready with
    | nil => exact first
    | cons id ready =>
      obtain ⟨kept, fewer⟩ := next first
      have less : weight (session.resume id).1 ≤ count := by omega
      exact ih less kept

end Session

end ArenaStandings
