import ArenaStandings.Proofs.Cache.Batch
import ArenaStandings.Proofs.Cache.Exclusion
import ArenaStandings.Proofs.Cache.Order
import ArenaStandings.Proofs.Cache.Stage

/-!
# Calls of a key take turns

A batch has the outcome of its calls one after the other: `Session.foundBefore` is what is found
under a key when the calls of the key before a place in the list have had their turns, and
`Session.expected` is what a call then comes to. While the calls of all keys go on in any order,
what has been settled of one key agrees with that (`Session.Settling`): as long as nothing is found
its calls end in order and leave nothing, and once a value is found the calls that are not over have
it to find. Moves of the calls and leaving keep this, whichever key they are of.
-/

namespace ArenaStandings

namespace Session

variable {τ α : Type}

/-- The call at a place in the list, if it has the key. -/
def callOf? (calls : List (Call τ α)) (key : String) (id : Nat) : Option (Call τ α) :=
  calls[id]?.filter fun call => call.key = key

theorem callOf?_eq_some_iff {calls : List (Call τ α)} {key : String} {id : Nat}
    {call : Call τ α} :
    callOf? calls key id = some call ↔ calls[id]? = some call ∧ call.key = key := by
  simp [callOf?, Option.filter_eq_some_iff]

/-- The places of the calls of a key, in order. -/
def callersOf (calls : List (Call τ α)) (key : String) : List Nat :=
  (List.range calls.length).filter fun id => (callOf? calls key id).isSome

theorem mem_callersOf {calls : List (Call τ α)} {key : String} {id : Nat} :
    id ∈ callersOf calls key ↔ ∃ call, callOf? calls key id = some call := by
  rw [callersOf, List.mem_filter, List.mem_range, Option.isSome_iff_exists]
  constructor
  · exact And.right
  · rintro ⟨call, turn⟩
    exact ⟨(List.getElem?_eq_some_iff.1 (callOf?_eq_some_iff.1 turn).1).1, call, turn⟩

variable [LE τ] [DecidableLE τ] [Clock τ]

/-- What is found under a key when the calls of the key before a place have had their turns: what
was found at first, or the first value that one of them left. -/
def foundBefore (cache : Cache τ α) (now : τ) (calls : List (Call τ α)) (key : String)
    (id : Nat) : Option α :=
  (cache.get now key).1.or
    ((calls.take id).findSome? fun call => if call.key = key then call.kept? cache now else none)

/-- What a call of a key comes to in its turn. -/
def expected (cache : Cache τ α) (now : τ) (calls : List (Call τ α)) (key : String) (id : Nat)
    (call : Call τ α) : Except Failure (Option α) :=
  match foundBefore cache now calls key id with
  | some value => .ok (some value)
  | none => call.own cache now

variable {cache : Cache τ α} {now : τ} {calls : List (Call τ α)} {key : String} {id : Nat}
  {call : Call τ α}

theorem foundBefore_eq_none_iff :
    foundBefore cache now calls key id = none ↔ (cache.get now key).1 = none ∧
      ∀ {other call}, other < id → callOf? calls key other = some call →
        call.kept? cache now = none := by
  rw [foundBefore, Option.or_eq_none_iff, List.findSome?_eq_none_iff]
  refine and_congr_right fun _ =>
    ⟨fun none other call less turn => ?_, fun none call member => ?_⟩
  · obtain ⟨here, own⟩ := callOf?_eq_some_iff.1 turn
    have member : call ∈ calls.take id :=
      List.mem_of_getElem? ((List.getElem?_take_of_lt less).trans here)
    simpa [own] using none call member
  · split
    · rename_i own
      obtain ⟨other, here⟩ := List.mem_iff_getElem?.1 member
      rw [List.getElem?_take] at here
      split at here
      · rename_i less
        exact none less (callOf?_eq_some_iff.2 ⟨here, own⟩)
      · cases here
    · rfl

/-- A value that is found stays. -/
theorem foundBefore_mono {value : α} (found : foundBefore cache now calls key id = some value)
    {later : Nat} (order : id ≤ later) : foundBefore cache now calls key later = some value := by
  rw [foundBefore] at found ⊢
  have parts : calls.take later = calls.take id ++ (calls.take later).drop id := by
    have front : calls.take id = (calls.take later).take id := by
      rw [List.take_take, Nat.min_eq_left order]
    rw [front, List.take_append_drop]
  rw [parts, List.findSome?_append, ← Option.or_assoc, found, Option.some_or]

/-- When nothing is found before a call, what it leaves is found after it. -/
theorem foundBefore_succ (missed : foundBefore cache now calls key id = none)
    (turn : callOf? calls key id = some call) :
    foundBefore cache now calls key (id + 1) = call.kept? cache now := by
  obtain ⟨here, own⟩ := callOf?_eq_some_iff.1 turn
  rw [foundBefore] at missed ⊢
  rw [List.take_add_one, here, Option.toList_some, List.findSome?_append,
    ← Option.or_assoc, missed, Option.none_or]
  simp [own]

/-! ## What has been settled -/

/-- What has been settled of a key agrees with its calls taking turns. -/
structure Settling (cache : Cache τ α) (now : τ) (calls : List (Call τ α)) (key : String)
    (session : Session τ α) : Prop where
  staged : ∀ {id call}, callOf? calls key id = some call → session.stage? id ≠ none
  /-- As long as nothing is found, calls end in order and leave nothing. -/
  early : session.found? key = none → (cache.get now key).1 = none ∧
    ∀ {id call result}, callOf? calls key id = some call →
      session.stage? id = some (.ended result) → call.kept? cache now = none ∧
        ∀ {other call'}, callOf? calls key other = some call' →
          (∀ result, session.stage? other ≠ some (.ended result)) → id < other
  /-- Once a value is found, the calls that are not over have it to find. -/
  late : ∀ {value}, session.found? key = some value → ∀ {id call},
    callOf? calls key id = some call →
      (∀ result, session.stage? id ≠ some (.ended result)) →
      foundBefore cache now calls key id = some value ∧ session.stage? id = some .before
  results : ∀ {id call result}, callOf? calls key id = some call →
    session.stage? id = some (.ended result) → result = expected cache now calls key id call
  ascending : (session.fetchesOf key).Pairwise (· < ·)
  mem_fetches : ∀ id, id ∈ session.fetchesOf key ↔
    (∃ call, callOf? calls key id = some call) ∧
    session.stage? id ≠ some .before ∧ foundBefore cache now calls key id = none

namespace Settling

variable {session next : Session τ α}

theorem start (cache : Cache τ α) (now : τ) (calls : List (Call τ α)) (key : String) :
    Settling cache now calls key (Session.start cache now calls) := by
  have stage : ∀ {id call}, callOf? calls key id = some call →
      (Session.start cache now calls).stage? id = some .before := by
    intro id call turn
    simp [stage?, phase?, Session.start, (callOf?_eq_some_iff.1 turn).1, Phase.stage]
  refine ⟨fun turn => stage turn ▸ (by simp), fun missed => ⟨missed, fun turn gone => ?_⟩,
    fun found id call turn _ => ⟨?_, stage turn⟩, fun turn gone => ?_, .nil, fun id => ?_⟩
  · cases (stage turn).symm.trans gone
  · have initially : (cache.get now key).1 = some _ := found
    rw [foundBefore, initially, Option.some_or]
  · cases (stage turn).symm.trans gone
  · apply iff_of_false List.not_mem_nil
    rintro ⟨⟨call, turn⟩, begun, -⟩
    exact begun (stage turn)

/-- Only what is found, who fetched and the stages of the calls of the key count. -/
theorem congr (settling : Settling cache now calls key session)
    (stages : ∀ {id call}, callOf? calls key id = some call →
      next.stage? id = session.stage? id)
    (found : next.found? key = session.found? key)
    (fetches : next.fetchesOf key = session.fetchesOf key) :
    Settling cache now calls key next where
  staged := fun turn => by
    rw [stages turn]
    exact settling.staged turn
  early := fun missed => by
    rw [found] at missed
    refine ⟨(settling.early missed).1, fun turn gone => ?_⟩
    rw [stages turn] at gone
    obtain ⟨left, first⟩ := (settling.early missed).2 turn gone
    refine ⟨left, fun turn' ongoing => first turn' ?_⟩
    rwa [stages turn'] at ongoing
  late := fun present id call turn ongoing => by
    rw [found] at present
    rw [stages turn] at ongoing ⊢
    exact settling.late present turn ongoing
  results := fun turn gone => by
    rw [stages turn] at gone
    exact settling.results turn gone
  ascending := by
    rw [fetches]
    exact settling.ascending
  mem_fetches := fun id => by
    rw [fetches, settling.mem_fetches]
    apply and_congr_right
    rintro ⟨call, turn⟩
    rw [stages turn]

/-- Nothing is found before a call in its turn, if all calls before it are over and nothing has been
found. -/
theorem foundBefore_eq_none (settling : Settling cache now calls key session)
    (missed : session.found? key = none)
    (least : ∀ {other call}, callOf? calls key other = some call →
      (∀ result, session.stage? other ≠ some (.ended result)) → id ≤ other) :
    foundBefore cache now calls key id = none := by
  refine foundBefore_eq_none_iff.2 ⟨(settling.early missed).1, fun {other call} less turn => ?_⟩
  by_cases gone : ∃ result, session.stage? other = some (.ended result)
  · obtain ⟨result, ended⟩ := gone
    exact ((settling.early missed).2 turn ended).1
  · have ongoing : id ≤ other := least turn fun result ended => gone ⟨result, ended⟩
    omega

/-- A call finds the value and is over. -/
theorem finds (settling : Settling cache now calls key session)
    (turn : callOf? calls key id = some call) (waits : session.stage? id = some .before)
    {value : α} (found : session.found? key = some value)
    (stages : ∀ other, next.stage? other =
      if other = id then some (.ended (.ok (some value))) else session.stage? other)
    (found' : next.found? key = session.found? key)
    (fetches : next.fetchesOf key = session.fetchesOf key) :
    Settling cache now calls key next := by
  have ready : foundBefore cache now calls key id = some value :=
    (settling.late found turn (by simp [waits])).1
  refine ⟨fun turn' => ?_, fun missed => ?_, fun present other call' turn' ongoing => ?_,
    fun turn' gone => ?_, fetches ▸ settling.ascending, fun other => ?_⟩
  · rw [stages]
    split
    · intro equal
      cases equal
    · exact settling.staged turn'
  · rw [found', found] at missed
    cases missed
  · rw [found'] at present
    rw [stages] at ongoing ⊢
    split at ongoing
    · exact (ongoing _ rfl).elim
    · rename_i differ
      rw [if_neg differ]
      exact settling.late present turn' ongoing
  · rw [stages] at gone
    split at gone
    · rename_i same
      cases gone
      rw [same, expected, ready]
    · exact settling.results turn' gone
  · rw [fetches, settling.mem_fetches, stages]
    split
    · rename_i same
      rw [same, ready]
      exact iff_of_false (by rintro ⟨-, -, ⟨⟩⟩) (by rintro ⟨-, -, ⟨⟩⟩)
    · rfl

/-- The first call that is not over begins its fetch. -/
theorem begins (settling : Settling cache now calls key session)
    (turn : callOf? calls key id = some call) (waits : session.stage? id = some .before)
    (missed : session.found? key = none)
    (least : ∀ {other call}, callOf? calls key other = some call →
      (∀ result, session.stage? other ≠ some (.ended result)) → id ≤ other)
    (alone : ∀ {other call}, callOf? calls key other = some call →
      session.stage? other ≠ some .during)
    (stages : ∀ other, next.stage? other =
      if other = id then some .during else session.stage? other)
    (found' : next.found? key = session.found? key)
    (fetches : next.fetchesOf key = session.fetchesOf key ++ [id]) :
    Settling cache now calls key next := by
  have free : foundBefore cache now calls key id = none :=
    settling.foundBefore_eq_none missed least
  have ended_iff : ∀ other result, next.stage? other = some (.ended result) ↔
      session.stage? other = some (.ended result) := by
    intro other result
    rw [stages]
    split
    · rename_i same
      rw [same, waits]
      exact iff_of_false (by simp) (by simp)
    · rfl
  refine ⟨fun turn' => ?_, fun _ => ⟨(settling.early missed).1, fun turn' gone => ?_⟩,
    fun present => ?_, fun turn' gone => settling.results turn' ((ended_iff _ _).1 gone), ?_,
    fun other => ?_⟩
  · rw [stages]
    split
    · intro equal
      cases equal
    · exact settling.staged turn'
  · obtain ⟨left, first⟩ := (settling.early missed).2 turn' ((ended_iff _ _).1 gone)
    exact ⟨left, fun turn'' ongoing => first turn'' fun result ended =>
      ongoing result ((ended_iff _ _).2 ended)⟩
  · rw [found', missed] at present
    cases present
  · rw [fetches]
    refine List.pairwise_append.2 ⟨settling.ascending, List.pairwise_singleton _ _, ?_⟩
    intro other member last same
    rw [List.mem_singleton.1 same]
    obtain ⟨⟨call', turn'⟩, begun, -⟩ := (settling.mem_fetches other).1 member
    cases stage : session.stage? other with
    | none => exact (settling.staged turn' stage).elim
    | some reached =>
      cases reached with
      | before => exact (begun stage).elim
      | during => exact (alone turn' stage).elim
      | ended result => exact ((settling.early missed).2 turn' stage).2 turn (by simp [waits])
  · rw [fetches, List.mem_append, List.mem_singleton, settling.mem_fetches, stages]
    by_cases same : other = id
    · rw [same, if_pos rfl]
      exact iff_of_true (.inr rfl) ⟨⟨call, turn⟩, (by simp), free⟩
    · rw [if_neg same]
      simp [same]

/-- The fetch of the first call that is not over ends. -/
theorem settles (settling : Settling cache now calls key session)
    (turn : callOf? calls key id = some call) (fetching : session.stage? id = some .during)
    (missed : session.found? key = none)
    (least : ∀ {other call}, callOf? calls key other = some call →
      (∀ result, session.stage? other ≠ some (.ended result)) → id ≤ other)
    (alone : ∀ {other call}, other ≠ id → callOf? calls key other = some call →
      session.stage? other ≠ some .during)
    (stages : ∀ other, next.stage? other =
      if other = id then some (.ended (call.own cache now)) else session.stage? other)
    (found' : next.found? key = call.kept? cache now)
    (fetches : next.fetchesOf key = session.fetchesOf key) :
    Settling cache now calls key next := by
  have free : foundBefore cache now calls key id = none :=
    settling.foundBefore_eq_none missed least
  have after : ∀ {other call'}, callOf? calls key other = some call' →
      (∀ result, next.stage? other ≠ some (.ended result)) →
        other ≠ id ∧ id < other ∧
          ∀ result, session.stage? other ≠ some (.ended result) := by
    intro other call' turn' ongoing
    rw [stages] at ongoing
    split at ongoing
    · exact (ongoing _ rfl).elim
    · rename_i differ
      have order := least turn' ongoing
      exact ⟨differ, by omega, ongoing⟩
  refine ⟨fun turn' => ?_,
    fun missed' => ⟨(settling.early missed).1, fun {other call' result} turn' gone => ?_⟩,
    fun present other call' turn' ongoing => ?_, fun {other call' result} turn' gone => ?_,
    fetches ▸ settling.ascending, fun other => ?_⟩
  · rw [stages]
    split
    · intro equal
      cases equal
    · exact settling.staged turn'
  · rw [stages] at gone
    split at gone
    · rename_i same
      subst same
      cases turn.symm.trans turn'
      exact ⟨found' ▸ missed', fun turn'' ongoing => (after turn'' ongoing).2.1⟩
    · obtain ⟨left, first⟩ := (settling.early missed).2 turn' gone
      exact ⟨left, fun turn'' ongoing => first turn'' (after turn'' ongoing).2.2⟩
  · obtain ⟨differ, order, ongoing'⟩ := after turn' ongoing
    rw [found'] at present
    refine ⟨foundBefore_mono ((foundBefore_succ free turn).trans present) order, ?_⟩
    rw [stages, if_neg differ]
    cases stage : session.stage? other with
    | none => exact (settling.staged turn' stage).elim
    | some reached =>
      cases reached with
      | before => rfl
      | during => exact (alone differ turn' stage).elim
      | ended result => exact (ongoing' result stage).elim
  · rw [stages] at gone
    split at gone
    · rename_i same
      subst same
      cases turn.symm.trans turn'
      cases gone
      rw [expected, free]
    · exact settling.results turn' gone
  · rw [fetches, settling.mem_fetches, stages]
    split
    · rename_i same
      rw [same, fetching]
      simp
    · rfl

end Settling

end Session

end ArenaStandings
