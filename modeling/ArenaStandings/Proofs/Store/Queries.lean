import ArenaStandings.Proofs.Sorting.Keys
import ArenaStandings.Proofs.Store.Reading

/-!
# Which queries a read makes

`Read.account` is what a read comes to, together with its queries. That a read `Asks` some queries
says that it has made exactly these whenever it comes to a value; there is one rule for each way to
build a read (`Read.Asks.bind`). Rounds and users are looked up for many documents at once.
`LooksUp` says of queries that nothing is asked if nothing is wanted, and otherwise one question for
exactly what is wanted, in ascending order. So are the rounds looked up that eliminations leave
their arena to (`Elimination.looksUp_lookedUp`).
-/

namespace ArenaStandings

namespace Read

variable {α β : Type} {store : Store} {queries : List Query}

/-- What a read comes to, with the queries that it made. -/
def account (read : Read α) (store : Store) : Except Failure (α × List Query) :=
  (read store).map fun found => (found.1, found.2.queries)

/-- Whenever the read comes to a value, it has made these queries. -/
def Asks (read : Read α) (store : Store) (queries : List Query) : Prop :=
  ∀ value trace, read store = .ok (value, trace) → trace.queries = queries

/-- A read that succeeds has made the queries that it asks. -/
theorem Asks.account_eq {read : Read α} (asks : read.Asks store queries) {value : α}
    (given : read.result store = .ok value) : read.account store = .ok (value, queries) := by
  unfold result at given
  unfold account
  cases found : read store with
  | error failure =>
    rw [found] at given
    cases given
  | ok outcome =>
    rw [found] at given
    cases given
    rw [← asks _ _ found]
    rfl

/-- After a read that succeeds comes the second, with its queries. -/
theorem account_bind_of_eq_ok {first : Read α} {next : α → Read β} {value : α}
    (given : first.account store = .ok (value, queries)) :
    (first >>= next).account store =
      ((next value).account store).map fun found => (found.1, queries ++ found.2) := by
  change (Read.bind first next store).map _ = _
  unfold account at given ⊢
  unfold Read.bind
  cases found : first store with
  | error failure =>
    rw [found] at given
    cases given
  | ok outcome =>
    rw [found] at given
    cases given
    dsimp only
    cases next outcome.1 store <;> rfl

theorem asks_pure (value : α) : (pure value : Read α).Asks store [] := by
  intro _ _ given
  cases given
  rfl

theorem asks_log (lines : List LogLine) : (log lines).Asks store [] := by
  intro _ _ given
  cases given
  rfl

theorem asks_requireLegible (values : List Value) : (requireLegible values).Asks store [] := by
  intro _ _ given
  unfold requireLegible at given
  split at given
  · cases given
    rfl
  · cases given

theorem asks_find (query : Query) : (find query).Asks store [query] := by
  intro _ _ given
  unfold find at given
  split at given
  · cases given
  · cases given
    rfl

/-- One read after another makes the queries of both. -/
theorem Asks.bind {first : Read α} {next : α → Read β} {asked later : List Query}
    (asks : first.Asks store asked) (together : asked ++ later = queries)
    (after : ∀ value, first.result store = .ok value → (next value).Asks store later) :
    (first >>= next).Asks store queries := by
  intro result trace given
  change Read.bind first next store = _ at given
  unfold Read.bind at given
  cases begun : first store with
  | error failure =>
    rw [begun] at given
    cases given
  | ok found =>
    obtain ⟨value, early⟩ := found
    rw [begun] at given
    dsimp only at given
    cases ended : next value store with
    | error failure =>
      rw [ended] at given
      cases given
    | ok found =>
      rw [ended] at given
      cases given
      change early.queries ++ found.2.queries = queries
      rw [asks value early begun, after value (result_of_eq_ok begun) _ _ ended, together]

theorem Asks.part {read : Read α} (asks : read.Asks store queries) (part : Part) :
    (Read.part part read).Asks store queries := by
  intro value trace given
  unfold Read.part at given
  split at given
  · cases given
  · exact asks value trace given

end Read

/-! ## Looking up together -/

/-- The query for the documents with these identifiers, if there are any. -/
def Query.lookUp (shelf : Shelf) (ids : List String) : List Query :=
  if ids.isEmpty then [] else [⟨shelf, .among "_id" ids⟩]

/-- Nothing is asked if nothing is wanted, and otherwise the one question for exactly what is
wanted, each identifier once and in ascending order. -/
inductive LooksUp (shelf : Shelf) (Wanted : String → Prop) : List Query → Prop
  | nothing (unwanted : ∀ id, ¬ Wanted id) : LooksUp shelf Wanted []
  | together {ids : List String} (wanted : ∃ id, Wanted id) (ascending : ids.SortedLT)
    (exact : ∀ id, id ∈ ids ↔ Wanted id) :
    LooksUp shelf Wanted [⟨shelf, .among "_id" ids⟩]

namespace LooksUp

variable {shelf : Shelf} {Wanted : String → Prop} {queries : List Query}

theorem lookUp {ids : List String} (ascending : ids.SortedLT)
    (exact : ∀ id, id ∈ ids ↔ Wanted id) :
    LooksUp shelf Wanted (Query.lookUp shelf ids) := by
  cases ids with
  | nil => exact .nothing fun id wanted => List.not_mem_nil ((exact id).2 wanted)
  | cons id ids => exact .together ⟨id, (exact id).1 List.mem_cons_self⟩ ascending exact

theorem length_le (looksUp : LooksUp shelf Wanted queries) : queries.length ≤ 1 := by
  cases looksUp with
  | nothing unwanted => exact Nat.zero_le 1
  | together wanted ascending exact => exact Nat.le_refl 1

end LooksUp

/-! ## The rounds of eliminations -/

theorem asks_readArenasOfRounds (store : Store) (roundIds : List String) :
    (readArenasOfRounds roundIds).Asks store (Query.lookUp .rounds roundIds) := by
  unfold readArenasOfRounds Query.lookUp
  split
  · exact Read.asks_pure _
  · apply (Read.asks_find _).bind rfl
    intro documents _
    apply (Read.asks_requireLegible _).bind rfl
    intro _ _
    exact Read.asks_pure _

namespace Elimination

/-- Eliminations are made of documents with one question for rounds, whatever the number of
documents. -/
theorem asks_ofDocuments (store : Store) (documents : List Record) :
    (ofDocuments documents).Asks store (Query.lookUp .rounds (lookedUp documents)) := by
  apply (Read.asks_requireLegible _).bind rfl
  intro _ _
  apply (asks_readArenasOfRounds store _).bind (List.append_nil _)
  intro arenas _
  apply (Read.asks_requireLegible _).bind rfl
  intro _ _
  apply (Read.asks_log _).bind rfl
  intro _ _
  exact Read.asks_pure _

/-- The document of an elimination leaves its arena to the round with this identifier: it names no
arena of its own, and a round whose text this is. -/
structure LeavesTo (document : Record) (roundId : String) : Prop where
  lacking : (document.get "arena_id").isTruthy = false
  named : document.get "round_id" ≠ .null
  text : (document.get "round_id").toText = roundId

theorem leavesTo_iff {document : Record} {roundId : String} :
    LeavesTo document roundId ↔
      lacksArena document = true ∧ roundId? document = some roundId := by
  rw [lacksArena, Bool.and_eq_true, Bool.not_eq_true', Bool.not_eq_true', roundId?,
    Option.ite_none_left_eq_some, Option.some.injEq, Value.isNull_iff, Bool.eq_false_iff,
    Bool.eq_false_iff, Ne, Ne, Value.isNull_iff]
  constructor
  · intro leaves
    exact ⟨⟨Bool.eq_false_iff.1 leaves.lacking, leaves.named⟩, leaves.named, leaves.text⟩
  · intro looked
    exact ⟨Bool.eq_false_iff.2 looked.1.1, looked.1.2, looked.2.2⟩

theorem sortedLT_lookedUp (documents : List Record) : (lookedUp documents).SortedLT :=
  Sorting.sortedLT_mergeSort (Names.nodup _)

/-- The rounds that are looked up are those that a document leaves its arena to. -/
theorem looksUp_lookedUp (documents : List Record) :
    LooksUp .rounds (fun roundId => ∃ document ∈ documents, LeavesTo document roundId)
      (Query.lookUp .rounds (lookedUp documents)) := by
  apply LooksUp.lookUp (sortedLT_lookedUp documents)
  intro roundId
  rw [mem_lookedUp]
  simp only [leavesTo_iff]

end Elimination

end ArenaStandings
