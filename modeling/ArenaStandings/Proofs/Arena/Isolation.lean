import ArenaStandings.Proofs.Arena.Figures
import ArenaStandings.Proofs.Game.Fields
import ArenaStandings.Proofs.Store.Alike

/-!
# Arenas are apart

The figures of an arena are computed from its document, its rounds, and the eliminations that name
one of these rounds. Two stores that agree on them give the same figures or the same failure
(`ArenaStats.readLive_apart`), whatever else they hold. Eliminations without an arena are looked up
among the rounds of all arenas; as rounds have different texts for identifiers, what is found there
is the arena itself (`Elimination.alike_ofDocuments`).
-/

namespace ArenaStandings

namespace Store

/-- The rounds have different texts for identifiers. -/
structure RoundsNamed (store : Store) : Prop where
  distinct : store.DistinctIds .rounds
  named : ∀ round ∈ store.rounds.documents, ∃ roundId, round.get "_id" = .text roundId

/-- The documents about an arena are the same in both stores: the arena, its rounds in order, and
the eliminations that name one of the rounds. -/
structure AgreeOn (first second : Store) (arenaId : String) : Prop where
  arena : first.arenas.documents.find? (Condition.equals "_id" arenaId).holds =
    second.arenas.documents.find? (Condition.equals "_id" arenaId).holds
  rounds : first.rounds.documents.filter (Condition.equals "arena_id" arenaId).holds =
    second.rounds.documents.filter (Condition.equals "arena_id" arenaId).holds
  eliminations : ∀ round ∈ first.rounds.documents, round.get "arena_id" = .text arenaId →
    ∀ elimination : Record, elimination.get "round_id" = round.get "_id" →
      (elimination ∈ first.eliminations.documents ↔
        elimination ∈ second.eliminations.documents)

end Store

/-! ## The arena and its rounds -/

theorem Arena.alike_readById {first second : Store} {arenaId : String} (readable : first.Readable)
    (readable' : second.Readable) (agree : first.AgreeOn second arenaId) :
    Alike Eq ((readById arenaId).result first) ((readById arenaId).result second) :=
  alike_readById_of_find? ((readable .arenas).trans (readable' .arenas).symm) agree.arena

namespace Round

/-- What is read of an arena are rounds of the arena. -/
theorem exists_document_of_readOfArena {store : Store} {arenaId : String} {rounds : List Round}
    (given : (readOfArena arenaId).result store = .ok rounds) {round : Round}
    (member : round ∈ rounds) :
    ∃ document ∈ store.rounds.documents, document.get "arena_id" = .text arenaId ∧
      round.id = (document.get "_id").toText := by
  obtain ⟨-, -, rfl⟩ := result_readOfArena_eq_ok.1 given
  obtain ⟨document, listed, valid⟩ := List.mem_filterMap.1 member
  obtain ⟨stored, asked⟩ := List.mem_filter.1 (List.mem_mergeSort.1 listed)
  refine ⟨document, stored, Condition.holds_equals_iff.1 asked, ?_⟩
  cases check : ofDocument document with
  | valid other =>
    rw [check] at valid
    cases valid
    exact id_of_ofDocument check
  | invalid issues =>
    rw [check] at valid
    cases valid

theorem alike_readOfArena {first second : Store} {arenaId : String} (readable : first.Readable)
    (readable' : second.Readable) (agree : first.AgreeOn second arenaId) :
    Alike Eq ((readOfArena arenaId).result first) ((readOfArena arenaId).result second) :=
  alike_readOfArena_of_inOrder ((readable .rounds).trans (readable' .rounds).symm)
    (congrArg inOrder agree.rounds)

end Round

/-! ## The eliminations -/

/-- A round with this identifier is stored, and every such round is one of the arena. -/
structure Store.Places (store : Store) (roundId arenaId : String) : Prop where
  stored : ∃ round ∈ store.rounds.documents, round.get "_id" = .text roundId
  only : ∀ round ∈ store.rounds.documents, round.get "_id" = .text roundId →
    round.get "arena_id" = .text arenaId

theorem Store.RoundsNamed.places {store : Store} (named : store.RoundsNamed) {round : Record}
    (stored : round ∈ store.rounds.documents) {roundId arenaId : String}
    (identifier : round.get "_id" = .text roundId) (arena : round.get "arena_id" = .text arenaId) :
    store.Places roundId arenaId where
  stored := ⟨round, stored, identifier⟩
  only := fun other stored' identifier' => by
    rw [named.distinct.eq stored' stored (identifier'.trans identifier.symm)]
    exact arena

theorem Store.Places.arenaOfRound?_eq {store : Store} {roundId arenaId : String}
    (places : store.Places roundId arenaId) (named : store.RoundsNamed) :
    arenaOfRound? store.rounds.documents roundId = some arenaId := by
  obtain ⟨round, stored, identifier⟩ := places.stored
  have arena := places.only round stored identifier
  exact (arenaOfRound?_eq_some_iff named.distinct).2
    ⟨round, stored, identifier, by simp [arena], by rw [arena]; rfl⟩

namespace Elimination

/-- Each document names a round of the arena. -/
def Placed (store : Store) (documents : List Record) (arenaId : String) : Prop :=
  ∀ document ∈ documents, ∃ roundId, document.get "round_id" = .text roundId ∧
    store.Places roundId arenaId

section Look

variable {store : Store} {documents : List Record} {arenaId : String}
  (placed : Placed store documents arenaId)
include placed

/-- The rounds that are looked up are rounds of the arena, so the look-up succeeds. -/
theorem result_readArenasOfRounds (readable : store.Readable) :
    (readArenasOfRounds (lookedUp documents)).result store = .ok (arenasOfRounds
      (store.rounds.documents.filter (Condition.among "_id" (lookedUp documents)).holds)) := by
  refine result_readArenasOfRounds_eq_ok.2 ⟨fun _ => readable .rounds, ?_, rfl⟩
  refine Value.areLegible_iff.2 fun value member => ?_
  obtain ⟨round, found, rfl⟩ := List.mem_map.1 member
  obtain ⟨stored, asked⟩ := List.mem_filter.1 found
  obtain ⟨roundId, looked, identifier⟩ := Condition.holds_among_iff.1 asked
  obtain ⟨document, given, -, named⟩ := mem_lookedUp.1 looked
  obtain ⟨roundId', names, places⟩ := placed document given
  cases (roundId?_of_text names).symm.trans named
  rw [places.only round stored identifier]
  rfl

/-- A document that names a round of the arena belongs to the arena, unless it says otherwise. -/
theorem arenaId?_of_placed (named : store.RoundsNamed) {document : Record}
    (member : document ∈ documents) :
    arenaId? (arenasOfRounds (store.rounds.documents.filter
        (Condition.among "_id" (lookedUp documents)).holds)) document =
      if (document.get "arena_id").isTruthy then some (document.get "arena_id").toText
      else (some arenaId).filter (· ≠ "") := by
  obtain ⟨roundId, names, places⟩ := placed document member
  rw [arenaId?_arenasOfRounds _ member, arenaIn?, roundId?_of_text names, Option.bind_some,
    places.arenaOfRound?_eq named]

end Look

/-- **Eliminations of the same documents.** Where each document names a round of the arena, the
other rounds of the stores do not matter, and neither does the order of the documents. -/
theorem alike_ofDocuments {first second : Store} {documents documents' : List Record}
    {arenaId : String} (readable : first.Readable) (readable' : second.Readable)
    (named : first.RoundsNamed) (named' : second.RoundsNamed)
    (placed : Placed first documents arenaId) (placed' : Placed second documents' arenaId)
    (same : ∀ document, document ∈ documents ↔ document ∈ documents') :
    Alike (fun eliminations eliminations' =>
        ∀ elimination, elimination ∈ eliminations ↔ elimination ∈ eliminations')
      ((ofDocuments documents).result first) ((ofDocuments documents').result second) := by
  apply alike_ofDocuments_of_looked same
  rw [result_readArenasOfRounds placed readable, result_readArenasOfRounds placed' readable']
  refine .ok fun document member => ?_
  exact (arenaId?_of_placed placed named member).trans
    (arenaId?_of_placed placed' named' ((same document).1 member)).symm

/-- Two stores that agree on an arena give the same eliminations from its rounds. -/
theorem alike_readOfRounds {first second : Store} {arenaId : String} (readable : first.Readable)
    (readable' : second.Readable) (named : first.RoundsNamed) (named' : second.RoundsNamed)
    (agree : first.AgreeOn second arenaId) {roundIds : List String}
    (owned : ∀ roundId ∈ roundIds, ∃ round ∈ first.rounds.documents,
      round.get "_id" = .text roundId ∧ round.get "arena_id" = .text arenaId) :
    Alike (fun eliminations eliminations' =>
        ∀ elimination, elimination ∈ eliminations ↔ elimination ∈ eliminations')
      ((readOfRounds roundIds).result first) ((readOfRounds roundIds).result second) := by
  apply alike_readOfRounds_of_documents
    ((readable .eliminations).trans (readable' .eliminations).symm)
  have asked : ∀ document : Record,
      (Condition.among "round_id" roundIds).holds document = true →
        ∃ roundId ∈ roundIds, document.get "round_id" = .text roundId :=
    fun document => Condition.holds_among_iff.1
  have listed : ∀ round ∈ first.rounds.documents, round.get "arena_id" = .text arenaId →
      round ∈ second.rounds.documents := by
    intro round stored arena
    have member := List.mem_filter.2 ⟨stored, Condition.holds_equals_iff.2 arena⟩
    rw [agree.rounds] at member
    exact (List.mem_filter.1 member).1
  apply alike_ofDocuments readable readable' named named'
  · intro document member
    obtain ⟨roundId, own, names⟩ := asked document (List.mem_filter.1 member).2
    obtain ⟨round, stored, identifier, arena⟩ := owned roundId own
    exact ⟨roundId, names, named.places stored identifier arena⟩
  · intro document member
    obtain ⟨roundId, own, names⟩ := asked document (List.mem_filter.1 member).2
    obtain ⟨round, stored, identifier, arena⟩ := owned roundId own
    exact ⟨roundId, names, named'.places (listed round stored arena) identifier arena⟩
  · intro document
    simp only [List.mem_filter]
    refine and_congr_left fun passes => ?_
    obtain ⟨roundId, own, names⟩ := asked document passes
    obtain ⟨round, stored, identifier, arena⟩ := owned roundId own
    exact agree.eliminations round stored arena document (names.trans identifier.symm)

end Elimination

/-! ## The figures -/

namespace ArenaStats

/-- **An arena is apart from the others.** Of two stores that can be read and whose rounds have
different texts for identifiers, let both have the same document for an arena, the same rounds of it
in the same order, and the same eliminations that name one of these rounds. Then both give the same
figures of the arena, but for the moment, or the same failure. -/
theorem readLive_apart {first second : Store} {arenaId : String} (readable : first.Readable)
    (readable' : second.Readable) (named : first.RoundsNamed) (named' : second.RoundsNamed)
    (agree : first.AgreeOn second arenaId) (moment moment' : String) :
    (readLive arenaId moment').result second =
      ((readLive arenaId moment).result first).map
        fun stats => { stats with lastUpdated := moment' } := by
  apply Alike.eq_map
  apply Read.alike_bind (Arena.alike_readById readable readable' agree)
  rintro arena _ rfl
  cases arena with
  | none => exact .error (.unknownArena arenaId)
  | some arena =>
    apply Read.alike_bind (Round.alike_readOfArena readable readable' agree).given
    rintro rounds _ ⟨given, -, rfl⟩
    have owned : ∀ roundId ∈ rounds.map Round.id, ∃ round ∈ first.rounds.documents,
        round.get "_id" = .text roundId ∧ round.get "arena_id" = .text arenaId := by
      intro roundId member
      obtain ⟨round, listed, rfl⟩ := List.mem_map.1 member
      obtain ⟨document, stored, arena, identifier⟩ :=
        Round.exists_document_of_readOfArena given listed
      obtain ⟨text, spelled⟩ := named.named document stored
      refine ⟨document, stored, ?_, arena⟩
      rw [identifier, spelled]
      rfl
    apply Read.alike_bind
      (Elimination.alike_readOfRounds readable readable' named named' agree owned)
    intro eliminations eliminations' same
    rw [Read.result_ofChecked, Read.result_ofChecked,
      compute_congr same arenaId arena rounds moment moment']
    cases (compute arenaId arena rounds eliminations moment).orFail with
    | ok stats => exact .ok rfl
    | error failure => exact .error failure

/-- An arena with one round of two players, of whom one was eliminated by a document that names the
round only, beside other rounds and eliminations. -/
def storeWith (rounds eliminations : List Record) : Store where
  rounds := ⟨rounds ++ [[("_id", .text "r"), ("arena_id", .text "a"),
    ("metadata", .record [("playerChoices",
      .list [.record [("userId", .text "u")], .record [("userId", .text "v")]])])]], none⟩
  eliminations := ⟨eliminations ++ [[("user_id", .text "u"), ("round_id", .text "r")]], none⟩
  users := ⟨[], none⟩
  arenas := ⟨[[("_id", .text "a")]], none⟩

/-- A round of another arena and the elimination from it do not show. -/
theorem readLive_apart_of_other :
    let first := storeWith [] []
    let second := storeWith [[("_id", .text "s"), ("arena_id", .text "b")]]
      [[("user_id", .text "v"), ("round_id", .text "s")]]
    ((readLive "a" "noon").result first).map survivorCount = .ok 1 ∧
      (readLive "a" "noon").result second =
        ((readLive "a" "dawn").result first).map
          fun stats => { stats with lastUpdated := "noon" } := by
  intro first second
  have named : first.RoundsNamed := by
    refine ⟨List.nodup_singleton _, fun round stored => ?_⟩
    exact ⟨"r", by rw [List.mem_singleton.1 stored]; rfl⟩
  have named' : second.RoundsNamed := by
    refine ⟨by simp [Store.DistinctIds, Store.get, second, storeWith, Record.get, Record.get?,
      Table.lookupRows], fun round stored => ?_⟩
    rcases List.mem_cons.1 stored with rfl | stored
    · exact ⟨"s", rfl⟩
    · exact ⟨"r", by rw [List.mem_singleton.1 stored]; rfl⟩
  have agree : first.AgreeOn second "a" := by
    refine ⟨rfl, rfl, fun round stored _ elimination names => ?_⟩
    rw [List.mem_singleton.1 stored] at names
    refine ⟨List.mem_cons_of_mem _, fun member => ?_⟩
    rcases List.mem_cons.1 member with rfl | member
    · simp [Record.get, Record.get?, Table.lookupRows] at names
    · exact member
  exact ⟨by decide +kernel,
    readLive_apart (by decide) (by decide) named named' agree "dawn" "noon"⟩

end ArenaStats

end ArenaStandings
