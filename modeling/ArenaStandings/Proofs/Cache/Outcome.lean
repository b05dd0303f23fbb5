import ArenaStandings.Proofs.Cache.Schedule
import ArenaStandings.Proofs.Cache.Turns
import Mathlib.Data.List.Sort
import Mathlib.Order.WellFounded

/-!
# The outcome of a batch

When calls with fetches that take no time begin all at once and in order, what becomes of the calls
of a key depends on these calls and on what is found under the key at first, and on nothing else
(`Session.outcome_run`): a value that is there is given to all; otherwise the calls fetch in order
until one of them leaves a value, which is given to all after it.
-/

namespace ArenaStandings

namespace Session

variable {τ α : Type} {session next : Session τ α} {id : Nat} {call : Call τ α}

/-! ## The record of fetches -/

/-- Who fetched a value for a key depends on the calls and the record of fetches. -/
theorem fetchesOf_eq (session : Session τ α) (key : String) :
    session.fetchesOf key =
      session.fetches.filter fun id => (session.call? id).any fun call => call.key == key := by
  simp [fetchesOf, call?, Option.any_map]

theorem fetchesOf_congr (calls : ∀ id, next.call? id = session.call? id)
    (fetches : next.fetches = session.fetches) (key : String) :
    next.fetchesOf key = session.fetchesOf key := by
  rw [fetchesOf_eq, fetchesOf_eq, fetches]
  simp only [calls]

/-- A call that begins to fetch is recorded under its key. -/
theorem fetchesOf_append (made : session.call? id = some call)
    (calls : ∀ other, next.call? other = session.call? other)
    (fetches : next.fetches = session.fetches ++ [id]) (key : String) :
    next.fetchesOf key =
      if call.key = key then session.fetchesOf key ++ [id] else session.fetchesOf key := by
  rw [fetchesOf_eq, fetchesOf_eq, fetches]
  simp only [calls, List.filter_append, made, List.filter_singleton, Option.any_some]
  split
  · rename_i own
    simp [own]
  · rename_i other
    simp [beq_eq_false_iff_ne.2 other]

variable [Clock τ] {cache : Cache τ α} {now : τ} {calls : List (Call τ α)} {key : String}

/-! ## The holder of a lock has its turn -/

namespace Batch

theorem callOf?_of_made (batch : Batch cache now calls session)
    (made : session.call? id = some call) : callOf? calls call.key id = some call :=
  callOf?_eq_some_iff.2 ⟨(batch.made id).symm.trans made, rfl⟩

/-- Calls of different keys are in different places. -/
theorem ne_of_callOf? (batch : Batch cache now calls session)
    (made : session.call? id = some call) (differ : call.key ≠ key) {other : Nat}
    {call' : Call τ α} (turn : callOf? calls key other = some call') : other ≠ id := by
  rintro rfl
  obtain ⟨here, own⟩ := callOf?_eq_some_iff.1 turn
  cases ((batch.made other).symm.trans made).symm.trans here
  exact differ own

/-- A call that holds its lock is the first of its key that is not over. -/
theorem le_of_holds (batch : Batch cache now calls session) (ordered : session.Ordered)
    (made : session.call? id = some call) {lock : Nat} (held : session.Holds id lock) {other : Nat}
    {call' : Call τ α} (turn : callOf? calls call.key other = some call')
    (ongoing : ∀ result, session.stage? other ≠ some (.ended result)) : id ≤ other := by
  obtain ⟨here, own⟩ := callOf?_eq_some_iff.1 turn
  have made' : session.call? other = some call' := (batch.made other).trans here
  obtain ⟨running, found, rfl⟩ := Option.map_eq_some_iff.1 made'
  have come : session.phase? other = some running.phase := by rw [phase?, found, Option.map_some]
  obtain ⟨slot, present, rfl⟩ := batch.consistent.slot_of_holds made held
  have shares : ∀ {lock}, session.Holds other lock ∨ session.Awaits other lock →
      lock = slot.lock := by
    intro lock inside
    obtain ⟨slot', present', rfl⟩ :=
      batch.consistent.shared ⟨⟨running.call, made', own⟩, inside⟩
    cases present.symm.trans present'
    rfl
  cases reached : running.phase with
  | arriving => exact Nat.le_of_lt (ordered.lt_of_lock (reached ▸ come) (.inl held))
  | queued lock =>
    have waits : session.Awaits other lock :=
      Option.bind_eq_some_iff.2 ⟨_, come, by rw [reached]; rfl⟩
    rw [shares (.inr waits)] at waits
    exact Nat.le_of_lt (ordered.holder_lt ((batch.consistent.holder_iff _ _).2 held)
      ((batch.consistent.mem_queue_iff _ _).2 waits))
  | woken lock =>
    have held' : session.Holds other lock :=
      Option.bind_eq_some_iff.2 ⟨_, come, by rw [reached]; rfl⟩
    rw [shares (.inl held')] at held'
    exact Nat.le_of_eq (batch.consistent.eq_of_holds held held')
  | fetching lock? yields =>
    have fetching : session.Fetching call.key other :=
      ⟨⟨running.call, made', own⟩, lock?, yields, reached ▸ come⟩
    exact Nat.le_of_eq
      (batch.consistent.eq_of_holds_of_fetching batch.enabled made held fetching)
  | finished result =>
    refine (ongoing result ?_).elim
    rw [stage?, come, Option.map_some, reached]
    rfl

theorem alone_of_holds (batch : Batch cache now calls session)
    (made : session.call? id = some call) {lock : Nat} (held : session.Holds id lock) {other : Nat}
    {call' : Call τ α} (turn : callOf? calls call.key other = some call')
    (differ : other ≠ id) :
    session.stage? other ≠ some .during := by
  intro fetching
  obtain ⟨here, own⟩ := callOf?_eq_some_iff.1 turn
  obtain ⟨phase, come, during⟩ := Option.map_eq_some_iff.1 fetching
  cases phase <;> cases during
  exact differ (batch.consistent.eq_of_holds_of_fetching batch.enabled made held
    ⟨⟨call', (batch.made other).trans here, own⟩, _, _, come⟩).symm

end Batch

variable [LE τ] [DecidableLE τ]

/-! ## Turns while calls go on -/

/-- Moves of a call, whichever key it has, keep what has been settled. -/
theorem Settling.move (settling : Settling cache now calls key session)
    (batch : Batch cache now calls session) (ordered : session.Ordered)
    (made : session.call? id = some call) (move : Move id call session next) :
    Settling cache now calls key next := by
  have found := batch.found?_move made move key
  by_cases own : call.key = key
  · subst own
    have turn := batch.callOf?_of_made made
    cases move.shown with
    | still stages fetches =>
      exact settling.congr (fun _ => stages _) found (fetchesOf_congr move.call? fetches _)
    | finds waits hit stages fetches =>
      exact settling.finds turn waits hit stages found (fetchesOf_congr move.call? fetches _)
    | begins waits entered stages fetches =>
      obtain ⟨lock, come, missed⟩ := entered.resolve_right (by simp [batch.enabled])
      have held : session.Holds id lock := Option.bind_eq_some_iff.2 ⟨_, come, rfl⟩
      refine settling.begins turn waits missed (batch.le_of_holds ordered made held)
        (fun {other call'} turn' => ?_) stages found
        ((fetchesOf_append made move.call? fetches _).trans (if_pos rfl))
      by_cases same : other = id
      · rw [same, waits]
        intro equal
        cases equal
      · exact batch.alone_of_holds made held turn' same
    | ends fetching => exact (batch.consistent.locked batch.enabled id 0 fetching).elim
  · have record : next.fetchesOf key = session.fetchesOf key := by
      cases move.shown with
      | begins waits entered stages fetches =>
        rw [fetchesOf_append made move.call? fetches, if_neg own]
      | still stages fetches | finds waits hit stages fetches | ends fetching stages fetches =>
        exact fetchesOf_congr move.call? fetches key
    refine settling.congr (fun {other call'} turn => ?_) found record
    rw [stage?, stage?, move.phase?_of_ne (batch.ne_of_callOf? made own turn)]

/-- A call that leaves its lock, whichever key it has, keeps what has been settled. -/
theorem Settling.leave (settling : Settling cache now calls key session)
    (batch : Batch cache now calls session) (ordered : session.Ordered)
    (made : session.call? id = some call) {lock : Nat} {result : Except Failure (Option α)}
    (ends : Ending id call session next lock result) :
    Settling cache now calls key (next.leave id lock call.key result).1 := by
  have stages := ends.stage?_leave batch.consistent call.key
  have record : (next.leave id lock call.key result).1.fetchesOf key = session.fetchesOf key :=
    fetchesOf_congr (fun other => (call?_leave ..).trans (ends.call? other))
      ((leave_fetches ..).trans ends.fetches) key
  by_cases own : call.key = key
  · subst own
    have turn := batch.callOf?_of_made made
    cases ends with
    | found come hit =>
      exact settling.finds turn (stage?_of_phase? come) hit stages (found?_leave ..) record
    | fetched come =>
      have held : session.Holds id lock := Option.bind_eq_some_iff.2 ⟨_, come, rfl⟩
      have fetching : session.stage? id = some .during := stage?_of_phase? come
      have missed : session.found? call.key = none := by
        cases found : session.found? call.key with
        | none => rfl
        | some value =>
          have waits := (settling.late found turn (by simp [fetching])).2
          cases fetching.symm.trans waits
      refine settling.settles turn fetching missed (batch.le_of_holds ordered made held)
        (fun differ turn' => batch.alone_of_holds made held turn' differ) (fun other => ?_)
        ((found?_leave ..).trans (batch.found?_settled_self made missed)) record
      rw [stages, batch.result_written made]
  · refine settling.congr (fun {other call'} turn => ?_) ?_ record
    · rw [stages, if_neg (batch.ne_of_callOf? made own turn)]
    · rw [found?_leave]
      cases ends with
      | found => rfl
      | fetched => exact batch.found?_settled_of_ne made fun same => own same.symm

/-! ## The run of a batch -/

/-- What holds of a batch while a call that has its turn goes on. -/
structure Going (cache : Cache τ α) (now : τ) (calls : List (Call τ α)) (id : Nat)
    (session : Session τ α) : Prop where
  batch : Batch cache now calls session
  ordered : session.Ordered
  first : session.First id
  settling : ∀ key, Settling cache now calls key session

theorem Going.move (going : Going cache now calls id session) (made : session.call? id = some call)
    (move : Move id call session next) : Going cache now calls id next := by
  obtain ⟨ordered, first⟩ := going.ordered.move going.batch.consistent going.first move
  exact ⟨going.batch.move made move, ordered, first,
    fun key => (going.settling key).move going.batch going.ordered made move⟩

theorem Going.leave (going : Going cache now calls id session) (made : session.call? id = some call)
    {lock : Nat} {result : Except Failure (Option α)}
    (ends : Ending id call session next lock result) :
    Going cache now calls id (next.leave id lock call.key result).1 := by
  obtain ⟨consistent, held⟩ := going.batch.consistent.ending ends
  obtain ⟨ordered, first⟩ := going.ordered.ending going.first ends
  obtain ⟨ordered', first'⟩ := ordered.leave consistent first held call.key result
  have made' : next.call? id = some call := (ends.call? id).trans made
  exact ⟨(going.batch.ending made ends).leave made' held result, ordered', first',
    fun key => (going.settling key).leave going.batch going.ordered made ends⟩

/-- What holds of a batch between two resumptions. -/
structure Underway (cache : Cache τ α) (now : τ) (calls : List (Call τ α)) (ready : List Nat)
    (session : Session τ α) : Prop where
  batch : Batch cache now calls session
  ordered : session.Ordered
  scheduled : session.Scheduled ready
  settling : ∀ key, Settling cache now calls key session

namespace Underway

theorem start (enabled : cache.enabled = true) (idle : cache.pending = [])
    (steady : ∀ call ∈ calls, (call.fetch.run now).1 = now) :
    Underway cache now calls (List.range calls.length) (Session.start cache now calls) where
  batch := .start enabled idle steady
  ordered := .start cache now calls
  scheduled := .start cache now calls
  settling := Settling.start cache now calls

/-- Resuming the first call that can go on keeps the batch under way, and fewer resumptions
remain. -/
theorem resume {rest : List Nat} (underway : Underway cache now calls (id :: rest) session) :
    Underway cache now calls (rest ++ (session.resume id).2.toList) (session.resume id).1 ∧
      remaining calls (session.resume id).1 < remaining calls session := by
  obtain ⟨batch, ordered, scheduled, settling⟩ := underway
  obtain ⟨old, come, able⟩ := (scheduled.mem_iff id).1 List.mem_cons_self
  obtain ⟨call, made⟩ := mem_calls_of_phase? come
  have resumed := batch.consistent.resumed made come able
  have going : Going cache now calls id session :=
    ⟨batch, ordered, fun _ arrives => scheduled.first_arrival arrives, settling⟩
  have gone : Going cache now calls id (session.resume id).1 :=
    resume_induction going id (fun made move going => going.move made move)
      fun made ends going => going.leave made ends
  exact ⟨⟨gone.batch, gone.ordered, scheduled.resume resumed, gone.settling⟩,
    remaining_resume ((batch.made id).symm.trans made) come resumed⟩

/-- A batch runs until no call can go on. -/
theorem run (enabled : cache.enabled = true) (idle : cache.pending = [])
    (steady : ∀ call ∈ calls, (call.fetch.run now).1 = now) :
    Underway cache now calls [] (Session.run cache now calls) :=
  runFor_induction (fun underway => underway.resume) _ (Nat.le_of_eq (remaining_start ..))
    (start enabled idle steady)

theorem stage?_eq (underway : Underway cache now calls [] session)
    (turn : callOf? calls key id = some call) :
    session.stage? id = some (.ended (expected cache now calls key id call)) := by
  obtain ⟨here, own⟩ := callOf?_eq_some_iff.1 turn
  have made : session.call? id = some call := (underway.batch.made id).trans here
  obtain ⟨running, found, rfl⟩ := Option.map_eq_some_iff.1 made
  have come : session.phase? id = some running.phase := by rw [phase?, found, Option.map_some]
  obtain ⟨result, gone⟩ := underway.scheduled.finished underway.batch.consistent come
  have stage : session.stage? id = some (.ended result) := by
    rw [stage?, come, Option.map_some, gone]
    rfl
  rw [stage, (underway.settling key).results turn stage]

/-- In the end every call has come to what it comes to in its turn. -/
theorem result?_eq (underway : Underway cache now calls [] session)
    (turn : callOf? calls key id = some call) :
    session.result? id = some (expected cache now calls key id call) :=
  result?_eq_some_iff.2 (underway.stage?_eq turn)

/-- In the end those calls of a key have fetched, in order, that found nothing in their turns. -/
theorem fetchesOf_eq_filter (underway : Underway cache now calls [] session) (key : String) :
    session.fetchesOf key =
      (callersOf calls key).filter fun id => (foundBefore cache now calls key id).isNone := by
  have ascending : (callersOf calls key).Pairwise (· < ·) := List.pairwise_lt_range.filter _
  apply (underway.settling key).ascending.eq_of_mem_iff (ascending.filter _)
  intro id
  rw [(underway.settling key).mem_fetches, List.mem_filter, mem_callersOf,
    Option.isNone_iff_eq_none]
  apply and_congr_right
  rintro ⟨call, turn⟩
  rw [underway.stage?_eq turn]
  exact and_iff_right (by simp)

end Underway

/-- What becomes of the calls of a key. -/
inductive Outcome (cache : Cache τ α) (now : τ) (calls : List (Call τ α)) (key : String)
    (session : Session τ α) : Prop
  /-- A value was there: no call fetches, and all are given the value. -/
  | found {value : α} (found : (cache.get now key).1 = some value)
      (fetches : session.fetchesOf key = [])
      (results : ∀ {id call}, callOf? calls key id = some call →
        session.result? id = some (.ok (some value)))
  /-- Nothing was there, and one call is the first to leave a value: the calls up to it fetch, in
  order, and come to what they fetch; those after it are given the value. -/
  | kept {keeper : Nat} {call : Call τ α} {value : α} (missed : (cache.get now key).1 = none)
      (turn : callOf? calls key keeper = some call) (kept : call.kept? cache now = some value)
      (none_before : ∀ {id call}, id < keeper → callOf? calls key id = some call →
        call.kept? cache now = none)
      (fetches : session.fetchesOf key = (callersOf calls key).filter (· ≤ keeper))
      (own : ∀ {id call}, id ≤ keeper → callOf? calls key id = some call →
        session.result? id = some (call.own cache now))
      (others : ∀ {id call}, keeper < id → callOf? calls key id = some call →
        session.result? id = some (.ok (some value)))
  /-- Nothing was there, and no call leaves a value: all fetch, in order, and come to what they
  fetch. -/
  | unkept (missed : (cache.get now key).1 = none)
      (none_kept : ∀ {id call}, callOf? calls key id = some call → call.kept? cache now = none)
      (fetches : session.fetchesOf key = callersOf calls key)
      (own : ∀ {id call}, callOf? calls key id = some call →
        session.result? id = some (call.own cache now))

theorem expected_of_found {value : α} (found : foundBefore cache now calls key id = some value)
    (call : Call τ α) : expected cache now calls key id call = .ok (some value) := by
  rw [expected, found]

theorem expected_of_missed (missed : foundBefore cache now calls key id = none)
    (call : Call τ α) : expected cache now calls key id call = call.own cache now := by
  rw [expected, missed]

/-- **The outcome of a batch.** Calls with fetches that take no time begin all at once, in order,
with a cache that is switched on and has no call under way. Then the calls of each key have the
outcome that their own fetches and what is found under the key decide. -/
theorem outcome_run (enabled : cache.enabled = true) (idle : cache.pending = [])
    (steady : ∀ call ∈ calls, (call.fetch.run now).1 = now) (key : String) :
    Outcome cache now calls key (run cache now calls) := by
  have underway := Underway.run enabled idle steady
  have fetches := underway.fetchesOf_eq_filter key
  cases initially : (cache.get now key).1 with
  | some value =>
    have found : ∀ id, foundBefore cache now calls key id = some value := fun id => by
      rw [foundBefore, initially, Option.some_or]
    refine .found initially ?_ fun {id call} turn => ?_
    · rw [fetches]
      simp [found]
    · rw [underway.result?_eq turn, expected_of_found (found id)]
  | none =>
    by_cases kept : ∃ id call value, callOf? calls key id = some call ∧
        call.kept? cache now = some value
    · obtain ⟨keeper, ⟨call, value, turn, left⟩, least⟩ := wellFounded_lt.has_min
        {id | ∃ call value,
          callOf? calls key id = some call ∧ call.kept? cache now = some value} kept
      have none_before : ∀ {id call}, id < keeper → callOf? calls key id = some call →
          call.kept? cache now = none := by
        intro id call order turn
        cases left : call.kept? cache now with
        | none => rfl
        | some value => exact (least id ⟨call, value, turn, left⟩ order).elim
      have missed : ∀ {id}, id ≤ keeper → foundBefore cache now calls key id = none := by
        intro id order
        exact foundBefore_eq_none_iff.2
          ⟨initially, fun less turn => none_before (by omega) turn⟩
      have found : ∀ {id}, keeper < id → foundBefore cache now calls key id = some value :=
        fun order => foundBefore_mono
          ((foundBefore_succ (missed (Nat.le_refl keeper)) turn).trans left) order
      refine .kept initially turn left none_before ?_ (fun {id call} order turn => ?_)
        fun {id call} order turn => ?_
      · rw [fetches]
        apply List.filter_congr
        intro id _
        by_cases order : id ≤ keeper
        · simp [missed order, order]
        · simp [found (Nat.lt_of_not_le order), order]
      · rw [underway.result?_eq turn, expected_of_missed (missed order)]
      · rw [underway.result?_eq turn, expected_of_found (found order)]
    · have none_kept : ∀ {id call}, callOf? calls key id = some call →
          call.kept? cache now = none := by
        intro id call turn
        cases left : call.kept? cache now with
        | none => rfl
        | some value => exact (kept ⟨id, call, value, turn, left⟩).elim
      have missed : ∀ id, foundBefore cache now calls key id = none := fun id =>
        foundBefore_eq_none_iff.2 ⟨initially, fun _ turn => none_kept turn⟩
      refine .unkept initially none_kept ?_ fun {id call} turn => ?_
      · rw [fetches]
        simp [missed]
      · rw [underway.result?_eq turn, expected_of_missed (missed id)]

/-- Calls of two keys: of the first, one fails, one fetches nothing, and of two that fetch a value
the first is the one that is kept; of the second, no value is kept. -/
def mixedCalls : List (Call Int String) :=
  [⟨"k", ⟨.error .notConnected, none⟩, 1, none⟩,
    ⟨"j", ⟨.ok (some "x"), none⟩, 3, some 0⟩,
    ⟨"k", ⟨.ok none, none⟩, 0, none⟩,
    ⟨"k", ⟨.ok (some "a"), none⟩, 2, some 5⟩,
    ⟨"k", ⟨.ok (some "b"), none⟩, 1, none⟩,
    ⟨"j", ⟨.ok (some "y"), none⟩, 0, some (-1)⟩]

/-- The last call of the first key is given what the one before it fetched. -/
theorem outcome_run_mixed :
    Outcome (.empty true 10) 0 mixedCalls "k" (run (.empty true 10) 0 mixedCalls) ∧
      (run (.empty true 10) 0 mixedCalls).fetchesOf "k" = [0, 2, 3] ∧
      (run (.empty true 10) 0 mixedCalls).result? 4 = some (.ok (some "a")) :=
  ⟨outcome_run rfl rfl (by simp [mixedCalls, Fetch.run]) "k", by decide +kernel,
    by decide +kernel⟩

/-- Late on a clock of doubles a second more is no later moment: a value that is to be kept for a
second is not kept, and the call after it fetches as well. -/
theorem fetches_of_rounded_moment :
    ¬ (run (.empty true (.int 30)) (Number.float 1e17)
      [⟨"k", ⟨.ok (some "a"), none⟩, 0, some (.int 1)⟩,
        ⟨"k", ⟨.ok (some "b"), none⟩, 0, some (.int 1)⟩]).fetchesOf "k" = [0] := by
  decide +kernel

end Session

end ArenaStandings
