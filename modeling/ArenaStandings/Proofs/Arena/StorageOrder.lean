import ArenaStandings.Proofs.Arena.Figures
import ArenaStandings.Proofs.Store.Alike
import ArenaStandings.Proofs.Store.Queries

/-!
# Figures do not show how documents are stored

The storage of an arena may be `Store.Reshuffled`: its rounds may lie in any order, and so may the
eliminations, each of them any number of times. Where the rounds of an arena have different integers
for numbers there is one order to sort them into (`Round.inOrder_eq_of_perm`), and where rounds have
different identifiers the eliminations are attributed to the same arenas
(`Elimination.alike_readArenasOfRounds`). As eliminated users are counted once, the figures stay the
same (`ArenaStats.readLive_eq_of_reshuffled`).
-/

namespace ArenaStandings

namespace Store

/-- Two storages hold the same arenas, the same rounds in any order, and the same eliminations in
any order and any number of times. -/
structure Reshuffled (first second : Store) : Prop where
  arenas : first.arenas = second.arenas
  rounds : first.rounds.documents.Perm second.rounds.documents
  roundsFault : first.rounds.fault = second.rounds.fault
  eliminations : ∀ elimination,
    elimination ∈ first.eliminations.documents ↔ elimination ∈ second.eliminations.documents
  eliminationsFault : first.eliminations.fault = second.eliminations.fault

/-- The rounds of an arena have different integers for numbers. -/
structure RoundsNumbered (store : Store) (arenaId : String) : Prop where
  integers : ∀ round ∈ store.rounds.documents, round.get "arena_id" = .text arenaId →
    ∃ number, round.get "round_number" = .int number
  distinct : ((store.rounds.documents.filter
    (Condition.equals "arena_id" arenaId).holds).map (·.get "round_number")).Nodup

theorem reshuffled_replace {store : Store} {rounds eliminations : List Record}
    (reordered : store.rounds.documents.Perm rounds)
    (same : ∀ elimination,
      elimination ∈ store.eliminations.documents ↔ elimination ∈ eliminations) :
    store.Reshuffled ((store.replace .rounds rounds).replace .eliminations eliminations) where
  arenas := rfl
  rounds := reordered
  roundsFault := rfl
  eliminations := same
  eliminationsFault := rfl

end Store

/-! ## The rounds of the arena -/

namespace Round

/-- The number of a round's document, if it is an integer. -/
def numberOf (document : Record) : Int :=
  match document.get "round_number" with
  | .int number => number
  | _ => 0

theorem get_eq_numberOf {document : Record}
    (integer : ∃ number, document.get "round_number" = .int number) :
    document.get "round_number" = .int (numberOf document) := by
  obtain ⟨number, numbered⟩ := integer
  rw [numberOf, numbered]

theorem inOrder_eq_mergeSort {documents : List Record}
    (integers : ∀ document ∈ documents, ∃ number, document.get "round_number" = .int number) :
    inOrder documents = documents.mergeSort (Sorting.byKey numberOf) := by
  apply Sorting.mergeSort_eq_byKey
  intro first member second member'
  rw [get_eq_numberOf (integers first member), get_eq_numberOf (integers second member')]
  exact decide_eq_decide.2 (Number.int_le_int _ _)

/-- Documents with different integers for numbers come out in one order, however they are stored. -/
theorem inOrder_eq_of_perm {documents others : List Record} (same : documents.Perm others)
    (integers : ∀ document ∈ documents, ∃ number, document.get "round_number" = .int number)
    (distinct : (documents.map (·.get "round_number")).Nodup) :
    inOrder documents = inOrder others := by
  have integers' : ∀ document ∈ others, ∃ number, document.get "round_number" = .int number :=
    fun document member => integers document (same.mem_iff.2 member)
  rw [inOrder_eq_mergeSort integers, inOrder_eq_mergeSort integers']
  apply Sorting.mergeSort_byKey_eq_of_perm same
  intro first member second member' level
  apply List.inj_on_of_nodup_map distinct member member'
  rw [get_eq_numberOf (integers first member), get_eq_numberOf (integers second member'), level]

end Round

variable {first second : Store} {arenaId : String}

theorem Round.alike_readOfArena_of_reshuffled (reshuffled : first.Reshuffled second)
    (numbered : first.RoundsNumbered arenaId) :
    Alike Eq ((readOfArena arenaId).result first) ((readOfArena arenaId).result second) := by
  apply alike_readOfArena_of_inOrder reshuffled.roundsFault
  apply inOrder_eq_of_perm (reshuffled.rounds.filter _) _ numbered.distinct
  intro round member
  obtain ⟨stored, asked⟩ := List.mem_filter.1 member
  exact numbered.integers round stored (Condition.holds_equals_iff.1 asked)

/-! ## The eliminations from them -/

namespace Elimination

/-- The rounds that are looked up are the same for the same documents. -/
theorem lookedUp_congr {documents documents' : List Record}
    (same : ∀ document, document ∈ documents ↔ document ∈ documents') :
    lookedUp documents = lookedUp documents' := by
  apply (sortedLT_lookedUp documents).eq_of_mem_iff (sortedLT_lookedUp documents')
  intro roundId
  rw [mem_lookedUp, mem_lookedUp]
  simp only [same]

/-- The same arena is found for each document, in whatever order the rounds come back. -/
theorem alike_readArenasOfRounds (reshuffled : first.Reshuffled second)
    (distinct : first.DistinctIds .rounds) (documents : List Record) :
    Alike (fun arenas arenas' =>
        ∀ document ∈ documents, arenaId? arenas document = arenaId? arenas' document)
      ((readArenasOfRounds (lookedUp documents)).result first)
      ((readArenasOfRounds (lookedUp documents)).result second) := by
  unfold readArenasOfRounds
  split
  · exact .ok fun _ _ => rfl
  apply Read.alike_bind
  · exact Read.alike_find_documents reshuffled.roundsFault
  intro rounds rounds' found
  obtain ⟨rfl, rfl⟩ := found
  apply Read.alike_bind
  · exact Read.alike_requireLegible fun _ => ((reshuffled.rounds.filter _).map _).mem_iff
  intro _ _ _
  refine .ok fun document member => ?_
  -- The two tables may differ, but not where one of the documents looks.
  calc arenaId? _ document
      = arenaIn? first.rounds.documents document := arenaId?_arenasOfRounds _ member
    _ = arenaIn? second.rounds.documents document := by
        rw [arenaIn?_eq_of_perm reshuffled.rounds distinct]
    _ = arenaId? _ document := (arenaId?_arenasOfRounds _ member).symm

theorem alike_readOfRounds_of_reshuffled (reshuffled : first.Reshuffled second)
    (distinct : first.DistinctIds .rounds) (roundIds : List String) :
    Alike (fun eliminations eliminations' =>
        ∀ elimination, elimination ∈ eliminations ↔ elimination ∈ eliminations')
      ((readOfRounds roundIds).result first) ((readOfRounds roundIds).result second) := by
  have same : ∀ document,
      document ∈ first.eliminations.documents.filter
          (Condition.among "round_id" roundIds).holds ↔
        document ∈ second.eliminations.documents.filter
          (Condition.among "round_id" roundIds).holds := by
    intro document
    rw [List.mem_filter, List.mem_filter, reshuffled.eliminations]
  apply alike_readOfRounds_of_documents reshuffled.eliminationsFault
  apply alike_ofDocuments_of_looked same
  rw [← lookedUp_congr same]
  exact alike_readArenasOfRounds reshuffled distinct _

end Elimination

/-! ## The figures -/

namespace ArenaStats

/-- **Figures do not show how documents are stored.** Let the rounds of a storage have different
identifiers and those of an arena different integers for numbers. Then a storage with the same
documents, its rounds in any order, and its eliminations in any order and any number of times, gives
the same figures of the arena, but for the moment; and where one fails to give figures, so does the
other. -/
theorem readLive_eq_of_reshuffled (reshuffled : first.Reshuffled second)
    (distinct : first.DistinctIds .rounds) (numbered : first.RoundsNumbered arenaId)
    (moment moment' : String) :
    (readLive arenaId moment').result second =
      ((readLive arenaId moment).result first).map
        fun stats => { stats with lastUpdated := moment' } := by
  have found : Alike Eq ((Arena.readById arenaId).result first)
      ((Arena.readById arenaId).result second) := by
    apply Arena.alike_readById_of_find?
    · rw [reshuffled.arenas]
    · rw [reshuffled.arenas]
  apply Alike.eq_map
  apply Read.alike_bind found
  intro arena? arena?' same
  subst same
  cases arena? with
  | none => exact .error (.unknownArena arenaId)
  | some arena =>
    apply Read.alike_bind (Round.alike_readOfArena_of_reshuffled reshuffled numbered)
    intro rounds rounds' same
    subst same
    apply Read.alike_bind
      (Elimination.alike_readOfRounds_of_reshuffled reshuffled distinct (rounds.map Round.id))
    intro eliminations eliminations' same
    rw [Read.result_ofChecked, Read.result_ofChecked,
      compute_congr same arenaId arena rounds moment moment']
    exact Alike.map _ _

/-- An arena with two rounds, of which the later lies first, and with two eliminations, of which one
leaves its arena to its round. -/
def laterFirst : Store where
  rounds := ⟨[[("_id", .text "s"), ("arena_id", .text "a"), ("round_number", .int 2)],
    [("_id", .text "r"), ("arena_id", .text "a"), ("round_number", .int 1),
      ("metadata", .record [("playerChoices", .list [.record [("userId", .text "u")],
        .record [("userId", .text "v")], .record [("userId", .text "w")]])])]], none⟩
  eliminations := ⟨[[("user_id", .text "u"), ("round_id", .text "r")],
    [("user_id", .text "v"), ("round_id", .text "s"), ("arena_id", .text "a")]], none⟩
  users := ⟨[], none⟩
  arenas := ⟨[[("_id", .text "a")]], none⟩

/-- The same arena with its rounds the other way round and with each elimination twice. -/
def earlierFirst : Store :=
  (laterFirst.replace .rounds laterFirst.rounds.documents.reverse).replace .eliminations
    (laterFirst.eliminations.documents ++ laterFirst.eliminations.documents)

/-- Both ways the second round is the latest and one of three players is left. -/
theorem readLive_eq_of_reshuffled_reversed :
    laterFirst.Reshuffled earlierFirst ∧
      ((readLive "a" "noon").result earlierFirst).map
        (fun stats => (stats.currentRound, stats.survivorCount)) = .ok (2, 1) ∧
      (readLive "a" "noon").result earlierFirst =
        ((readLive "a" "dawn").result laterFirst).map
          fun stats => { stats with lastUpdated := "noon" } := by
  have reshuffled : laterFirst.Reshuffled earlierFirst := by
    apply Store.reshuffled_replace (List.reverse_perm _).symm
    intro elimination
    rw [List.mem_append, or_self]
  have distinct : laterFirst.DistinctIds .rounds := by
    simp [Store.DistinctIds, Store.get, laterFirst, Record.get, Record.get?, Table.lookupRows]
  have numbered : laterFirst.RoundsNumbered "a" := by
    refine ⟨?_, ?_⟩
    · simp [laterFirst, Record.get, Record.get?, Table.lookupRows]
    · simp [laterFirst, Record.get, Record.get?, Table.lookupRows, Condition.holds, Value.text?]
  have arena : (Arena.readById "a").result earlierFirst = .ok (some _) := rfl
  have rounds : (Round.readOfArena "a").result earlierFirst = .ok _ :=
    Round.result_readOfArena_of_sorted rfl (by decide +kernel) (by decide +kernel)
  refine ⟨reshuffled, ?_, readLive_eq_of_reshuffled reshuffled distinct numbered "dawn" "noon"⟩
  rw [result_readLive_of_rounds arena rounds]
  decide +kernel

end ArenaStats

end ArenaStandings
