import ArenaStandings.Store.Eliminations
import ArenaStandings.Store.Identities
import Mathlib.Data.List.Nodup

/-!
# What reads come to

`Read.result` is what a read comes to without its trace, and says for each way to build a read when
it succeeds. From these follow the reads behind the leaderboard and those behind the figures of an
arena: each succeeds exactly when its collections have no fault and texts can be made of what it
writes as text, and then gives what one reads off the documents. For eliminations this means that
one query for all rounds finds the arena that a look-up for each document would find
(`Elimination.arenaId?_arenasOfRounds`).
-/

namespace ArenaStandings

/-- How a failure is told where a part of the game is read: a fault of the storage makes the part
unreadable, and any other failure is passed on. -/
def Failure.within (part : Part) : Failure → Failure
  | raised fault => if fault.isStorage then .unreadable part else .raised fault
  | failure => failure

namespace Read

variable {α β : Type}

/-- What a read comes to, without its trace. -/
def result (read : Read α) (store : Store) : Except Failure α := (read store).map Prod.fst

variable {store : Store} {value : α}

theorem result_of_eq_ok {read : Read α} {trace : Trace} (given : read store = .ok (value, trace)) :
    read.result store = .ok value := by
  rw [result, given]
  rfl

@[simp] theorem result_pure : (pure value : Read α).result store = .ok value := rfl

/-- One read after another comes to what the second makes of what the first comes to. -/
theorem result_bind {first : Read α} {next : α → Read β} :
    (first >>= next).result store =
      first.result store >>= fun value => (next value).result store := by
  change (Read.bind first next store).map Prod.fst = _
  unfold Read.bind Read.result
  cases first store with
  | error failure => rfl
  | ok found =>
    obtain ⟨value, trace⟩ := found
    dsimp only
    change _ = (next value store).map Prod.fst
    cases next value store with
    | error failure => rfl
    | ok found => rfl

/-- After a read that succeeds comes the second. -/
theorem result_bind_of_eq_ok {first : Read α} {next : α → Read β}
    (given : first.result store = .ok value) :
    (first >>= next).result store = (next value).result store := by
  rw [result_bind, given]
  rfl

/-- A read whose value is changed comes to what the read comes to, changed. -/
theorem result_map (change : α → β) (read : Read α) (store : Store) :
    (change <$> read).result store = (read.result store).map change := by
  change (read >>= fun value => pure (change value)).result store = _
  rw [result_bind]
  cases read.result store <;> rfl

/-- One read after another succeeds when both do. -/
@[simp] theorem result_bind_eq_ok {first : Read α} {next : α → Read β} {result : β} :
    (first >>= next).result store = .ok result ↔
      ∃ value, first.result store = .ok value ∧ (next value).result store = .ok result := by
  rw [result_bind]
  cases first.result store with
  | error failure => simp [bind, Except.bind]
  | ok value => simp [bind, Except.bind]

@[simp] theorem result_log {lines : List LogLine} : (log lines).result store = .ok () := rfl

/-- A collection gives the documents that meet a condition, or its fault. -/
theorem result_find (query : Query) (store : Store) :
    (find query).result store =
      match (store.get query.shelf).fault with
      | some fault => .error (.raised fault)
      | none => .ok ((store.get query.shelf).documents.filter query.condition.holds) := by
  unfold find result
  dsimp only
  cases (store.get query.shelf).fault <;> rfl

@[simp] theorem result_find_eq_ok {query : Query} {documents : List Record} :
    (find query).result store = .ok documents ↔
      (store.get query.shelf).fault = none ∧
        (store.get query.shelf).documents.filter query.condition.holds = documents := by
  rw [result_find]
  cases (store.get query.shelf).fault <;> simp

theorem result_findFirst (query : Query) (store : Store) :
    (findFirst query).result store =
      match (store.get query.shelf).fault with
      | some fault => .error (.raised fault)
      | none => .ok ((store.get query.shelf).documents.find? query.condition.holds) := by
  unfold findFirst result
  dsimp only
  cases (store.get query.shelf).fault <;> rfl

@[simp] theorem result_findFirst_eq_ok {query : Query} {document? : Option Record} :
    (findFirst query).result store = .ok document? ↔
      (store.get query.shelf).fault = none ∧
        (store.get query.shelf).documents.find? query.condition.holds = document? := by
  rw [result_findFirst]
  cases (store.get query.shelf).fault <;> simp

theorem result_requireLegible (values : List Value) (store : Store) :
    (requireLegible values).result store =
      if Value.areLegible values then .ok () else .error .tooManyDigits := by
  unfold requireLegible result
  split <;> rfl

@[simp] theorem result_requireLegible_eq_ok {values : List Value} {done : Unit} :
    (requireLegible values).result store = .ok done ↔ Value.areLegible values = true := by
  rw [result_requireLegible]
  split <;> simp_all

theorem result_ofChecked (checked : Checked α) (store : Store) :
    (ofChecked checked).result store = checked.orFail := by
  cases checked <;> rfl

/-- A part of the game comes to what the read itself comes to, but for how a failure is told. -/
theorem result_part (part : Part) (read : Read α) (store : Store) :
    (Read.part part read).result store = (read.result store).mapError (Failure.within part) := by
  unfold Read.part result
  dsimp only
  cases read store with
  | ok found => rfl
  | error failure => cases failure <;> rfl

/-- A part of the game that begins with a query is not read if the collection has a fault. -/
theorem result_part_of_fault (query : Query) {fault : Fault}
    (faulty : (store.get query.shelf).fault = some fault) (part : Part)
    (next : List Record → Read α) :
    (Read.part part (find query >>= next)).result store =
      .error (Failure.within part (.raised fault)) := by
  rw [result_part, result_bind, result_find, faulty]
  rfl

/-- A part of the game is read when the read itself succeeds. -/
@[simp] theorem result_part_eq_ok {part : Part} {read : Read α} :
    (Read.part part read).result store = .ok value ↔ read.result store = .ok value := by
  rw [result_part]
  cases read.result store <;> simp [Except.mapError]

end Read

theorem Trace.append_assoc (first second third : Trace) :
    first ++ second ++ third = first ++ (second ++ third) := by
  change (⟨_ ++ _ ++ _, _ ++ _ ++ _⟩ : Trace) = ⟨_ ++ (_ ++ _), _ ++ (_ ++ _)⟩
  rw [List.append_assoc, List.append_assoc]

theorem Trace.append_empty (trace : Trace) : trace ++ empty = trace := by
  change (⟨_ ++ [], _ ++ []⟩ : Trace) = _
  rw [List.append_nil, List.append_nil]

namespace Read

variable {α β γ : Type}

/-- To change what a read gives leaves its trace as it is. -/
theorem map_apply (change : α → β) (read : Read α) (store : Store) :
    (change <$> read) store = (read store).map fun found => (change found.1, found.2) := by
  change Read.bind read (fun value => Read.pure (change value)) store = _
  unfold Read.bind Read.pure
  cases read store with
  | error failure => rfl
  | ok found => exact congrArg (Except.ok <| Prod.mk _ ·) found.2.append_empty

theorem map_map (change : α → β) (later : β → γ) (read : Read α) :
    later <$> change <$> read = (later ∘ change) <$> read := by
  funext store
  rw [map_apply, map_apply, map_apply]
  cases read store <;> rfl

/-- What the second of two reads gives may be changed as it comes. -/
theorem map_bind (change : β → γ) (first : Read α) (next : α → Read β) :
    change <$> (first >>= next) = first >>= fun value => change <$> next value := by
  funext store
  rw [map_apply]
  change (Read.bind first next store).map _ =
    Read.bind first (fun value => change <$> next value) store
  unfold Read.bind
  cases first store with
  | error failure => rfl
  | ok found =>
    dsimp only
    rw [map_apply]
    cases next found.1 store <;> rfl

end Read

/-! ## Conditions -/

namespace Condition

variable {field : String} {document : Record}

theorem holds_equals_iff {text : String} :
    (equals field text).holds document = true ↔ document.get field = .text text := by
  rw [holds, beq_iff_eq, Value.text?_eq_some_iff]

theorem holds_among_iff {texts : List String} :
    (among field texts).holds document = true ↔
      ∃ text ∈ texts, document.get field = .text text := by
  rw [holds, Option.any_eq_true]
  refine exists_congr fun text => ?_
  rw [Value.text?_eq_some_iff, List.contains_iff_mem, and_comm]

end Condition

/-! ## The arenas of rounds -/

/-- The arena of a round by the documents of rounds: that of the last one with this text as its
identifier that names an arena. -/
def arenaOfRound? (rounds : List Record) (roundId : String) : Option String :=
  (rounds.filter fun round =>
    (round.get "_id").text? == some roundId && !(round.get "arena_id").isNull).getLast?.map
      fun round => (round.get "arena_id").toText

theorem find?_arenasOfRounds (documents : List Record) (roundId : String) :
    (arenasOfRounds documents).find? roundId =
      (documents.filter fun document =>
        (document.get "_id").toText = roundId && !(document.get "arena_id").isNull).getLast?.map
          fun document => (document.get "arena_id").toText := by
  rw [arenasOfRounds, Table.find?_ofList]
  have pairs : (documents.filterMap fun document =>
      if (document.get "arena_id").isNull then none
      else some ((document.get "_id").toText, (document.get "arena_id").toText)).filter
        (fun pair => pair.1 = roundId) =
      (documents.filter fun document =>
        (document.get "_id").toText = roundId && !(document.get "arena_id").isNull).map
          fun document => ((document.get "_id").toText, (document.get "arena_id").toText) := by
    induction documents with
    | nil => rfl
    | cons document documents ih =>
      rw [List.filterMap_cons, List.filter_cons]
      cases document.get "arena_id" |>.isNull <;>
        by_cases same : (document.get "_id").toText = roundId <;> simp [same, ih]
  rw [pairs, List.getLast?_map, Option.map_map]
  rfl

/-- What one query for several rounds finds of one of them is what its own look-up finds. -/
theorem find?_arenasOfRounds_among (rounds : List Record) {roundIds : List String}
    {roundId : String} (asked : roundId ∈ roundIds) :
    (arenasOfRounds (rounds.filter (Condition.among "_id" roundIds).holds)).find? roundId =
      arenaOfRound? rounds roundId := by
  rw [find?_arenasOfRounds, arenaOfRound?, List.filter_filter]
  congr 2
  refine List.filter_congr fun round _ => ?_
  cases identifier : (round.get "_id").text? with
  | none => simp [Condition.holds, identifier]
  | some text =>
    rw [Value.toText_of_text? identifier]
    by_cases same : text = roundId
    · simp [Condition.holds, identifier, same, asked]
    · simp [same]

/-- Of rounds with different identifiers at most one has a given identifier, and its arena is
found. -/
theorem arenaOfRound?_eq_some_iff {rounds : List Record}
    (distinct : (rounds.map (·.get "_id")).Nodup) {roundId arenaId : String} :
    arenaOfRound? rounds roundId = some arenaId ↔
      ∃ round ∈ rounds, round.get "_id" = .text roundId ∧ round.get "arena_id" ≠ .null ∧
        (round.get "arena_id").toText = arenaId := by
  have named : ∀ round : Record,
      ((round.get "_id").text? == some roundId && !(round.get "arena_id").isNull) = true ↔
        round.get "_id" = .text roundId ∧ round.get "arena_id" ≠ .null := fun round => by
    rw [Bool.and_eq_true, beq_iff_eq, Value.text?_eq_some_iff, Bool.not_eq_true', Bool.eq_false_iff,
      Ne, Value.isNull_iff]
  rw [arenaOfRound?, Option.map_eq_some_iff]
  simp only [getLast?_filter_eq_some_iff fun first member second member' passes passes' =>
    List.inj_on_of_nodup_map distinct member member'
      (((named first).1 passes).1.trans ((named second).1 passes').1.symm), named, and_assoc]

/-- Of rounds with different identifiers at most one has a given identifier, so that their order
does not matter. -/
theorem arenaOfRound?_eq_of_perm {rounds others : List Record} (same : rounds.Perm others)
    (distinct : (rounds.map (·.get "_id")).Nodup) :
    arenaOfRound? rounds = arenaOfRound? others := by
  ext roundId arenaId
  rw [arenaOfRound?_eq_some_iff distinct,
    arenaOfRound?_eq_some_iff ((same.map _).nodup_iff.1 distinct)]
  simp only [same.mem_iff]

def Shelf.all : List Shelf := [.rounds, .eliminations, .users, .arenas]

theorem Shelf.forall_mem_all {property : Shelf → Prop} :
    (∀ shelf ∈ all, property shelf) ↔ ∀ shelf, property shelf := by
  refine ⟨fun holds shelf => holds shelf ?_, fun holds shelf _ => holds shelf⟩
  cases shelf <;> decide

namespace Store

/-- No collection has a fault. -/
def Readable (store : Store) : Prop := ∀ shelf, (store.get shelf).fault = none

/-- The documents of a collection have different identifiers. -/
def DistinctIds (store : Store) (shelf : Shelf) : Prop :=
  ((store.get shelf).documents.map (·.get "_id")).Nodup

/-- Documents with one identifier are one. -/
theorem DistinctIds.eq {store : Store} {shelf : Shelf} (distinct : store.DistinctIds shelf)
    {first second : Record} (member : first ∈ (store.get shelf).documents)
    (member' : second ∈ (store.get shelf).documents) (same : first.get "_id" = second.get "_id") :
    first = second :=
  List.inj_on_of_nodup_map distinct member member' same

/-- No integer in a document has too many digits to be written. -/
def Legible (store : Store) : Prop :=
  ∀ shelf, ∀ document ∈ (store.get shelf).documents, Value.fieldsLegible document = true

instance (store : Store) : Decidable store.Readable :=
  decidable_of_iff (∀ shelf ∈ Shelf.all, (store.get shelf).fault = none) Shelf.forall_mem_all

instance (store : Store) : Decidable store.Legible :=
  decidable_of_iff (∀ shelf ∈ Shelf.all, ∀ document ∈ (store.get shelf).documents,
    Value.fieldsLegible document = true) Shelf.forall_mem_all

end Store

/-! ## Rounds, eliminations and users -/

namespace ResolvedRound

/-- The documents of the resolved rounds. -/
def documentsIn (store : Store) : List Record :=
  store.rounds.documents.filter (Condition.equals "state" resolvedState).holds

theorem result_readAll_eq_ok {store : Store} {rounds : List ResolvedRound} :
    readAll.result store = .ok rounds ↔
      store.rounds.fault = none ∧ Value.areLegible ((documentsIn store).map label) = true ∧
        (documentsIn store).filterMap ofDocument? = rounds := by
  simp [readAll, Store.get, documentsIn]

theorem result_readAll {store : Store} (sound : store.rounds.fault = none)
    (legible : store.Legible) :
    readAll.result store = .ok ((documentsIn store).filterMap ofDocument?) := by
  refine result_readAll_eq_ok.2 ⟨sound, Value.areLegible_iff.2 ?_, rfl⟩
  intro value member
  obtain ⟨document, found, rfl⟩ := List.mem_map.1 member
  have small := legible .rounds document (List.mem_filter.1 found).1
  unfold label
  split
  · exact Value.isLegible_get small _
  · exact Value.isLegible_get small _

end ResolvedRound

/-- No document has one of no texts in a field. -/
theorem filter_among_nil (documents : List Record) (field : String) :
    documents.filter (Condition.among field []).holds = [] := by
  simp [List.filter_eq_nil_iff, Condition.holds]

theorem result_readArenasOfRounds_eq_ok {store : Store} {roundIds : List String}
    {arenas : Table String String} :
    (readArenasOfRounds roundIds).result store = .ok arenas ↔
      let documents := store.rounds.documents.filter (Condition.among "_id" roundIds).holds
      (roundIds ≠ [] → store.rounds.fault = none) ∧
        Value.areLegible (documents.map (·.get "arena_id")) = true ∧
        arenasOfRounds documents = arenas := by
  unfold readArenasOfRounds
  cases roundIds with
  | nil => simp [filter_among_nil, Value.areLegible, arenasOfRounds, Table.ofList]
  | cons roundId roundIds => simp [Store.get]

namespace Elimination

/-- The arena of an elimination by the documents of rounds: its own, or that of its round. An empty
text is no arena. -/
def arenaIn? (rounds : List Record) (document : Record) : Option String :=
  if (document.get "arena_id").isTruthy then some (document.get "arena_id").toText
  else ((roundId? document).bind (arenaOfRound? rounds)).filter (· ≠ "")

/-- The elimination of a document by the documents of rounds, if it has a user and an arena. -/
def inRounds? (rounds : List Record) (document : Record) : Option Elimination :=
  if (document.get "user_id").isNull then none
  else (arenaIn? rounds document).map fun arenaId =>
    ⟨(document.get "user_id").toText, roundId? document, arenaId⟩

theorem arenaIn?_eq_of_perm {rounds others : List Record} (same : rounds.Perm others)
    (distinct : (rounds.map (·.get "_id")).Nodup) : arenaIn? rounds = arenaIn? others := by
  funext document
  rw [arenaIn?, arenaIn?, arenaOfRound?_eq_of_perm same distinct]

theorem inRounds?_eq_of_perm {rounds others : List Record} (same : rounds.Perm others)
    (distinct : (rounds.map (·.get "_id")).Nodup) : inRounds? rounds = inRounds? others := by
  funext document
  rw [inRounds?, inRounds?, arenaIn?_eq_of_perm same distinct]

theorem roundId?_of_text {document : Record} {roundId : String}
    (names : document.get "round_id" = .text roundId) : roundId? document = some roundId := by
  rw [roundId?, names]
  rfl

theorem mem_lookedUp {documents : List Record} {roundId : String} :
    roundId ∈ lookedUp documents ↔
      ∃ document ∈ documents, lacksArena document = true ∧
        roundId? document = some roundId := by
  simp [lookedUp, Names.mem_sorted, Names.mem_ofList, and_assoc]

/-- One query for the rounds of all documents finds the arena that a look-up for each would find. -/
theorem arenaId?_arenasOfRounds (rounds : List Record) {documents : List Record} {document : Record}
    (member : document ∈ documents) :
    arenaId? (arenasOfRounds (rounds.filter (Condition.among "_id" (lookedUp documents)).holds))
      document = arenaIn? rounds document := by
  unfold arenaId? arenaIn?
  dsimp only
  split
  · rfl
  · rename_i lacking
    cases named : roundId? document with
    | none => rfl
    | some roundId =>
      have present : (document.get "round_id").isNull = false := by
        unfold roundId? at named
        split at named
        · cases named
        · rename_i present
          simpa using present
      have asked : roundId ∈ lookedUp documents :=
        mem_lookedUp.2 ⟨document, member, by simp [lacksArena, lacking, present], named⟩
      rw [Option.bind_some, Option.bind_some, find?_arenasOfRounds_among rounds asked]

theorem ofDocument?_arenasOfRounds (rounds : List Record) {documents : List Record}
    {document : Record} (member : document ∈ documents) :
    ofDocument? (arenasOfRounds (rounds.filter (Condition.among "_id" (lookedUp documents)).holds))
      document = inRounds? rounds document := by
  rw [ofDocument?, inRounds?, arenaId?_arenasOfRounds rounds member]

/-- The fields of an elimination that texts are made of. -/
def idFields : List String := ["_id", "user_id", "round_id", "arena_id"]

/-- What is written of a document as text is one of these fields. -/
theorem exists_field_of_mem_labels {arenas : Table String String} {document : Record}
    {value : Value} (member : value ∈ labels arenas document) :
    ∃ name ∈ idFields, value = document.get name := by
  unfold labels at member
  unfold idFields
  grind

theorem isLegible_of_mem_labels {arenas : Table String String} {document : Record} {value : Value}
    (legible : Value.fieldsLegible document = true) (member : value ∈ labels arenas document) :
    value.isLegible = true := by
  obtain ⟨name, -, rfl⟩ := exists_field_of_mem_labels member
  exact Value.isLegible_get legible name

theorem result_ofDocuments_eq_ok {store : Store} {documents : List Record}
    {eliminations : List Elimination} :
    (ofDocuments documents).result store = .ok eliminations ↔
      Value.areLegible ((documents.filter lacksArena).map (·.get "round_id")) = true ∧
        ∃ arenas, (readArenasOfRounds (lookedUp documents)).result store = .ok arenas ∧
          Value.areLegible (documents.flatMap (labels arenas)) = true ∧
          documents.filterMap (ofDocument? arenas) = eliminations := by
  simp [ofDocuments]

/-- The eliminations of documents are made with the arena of each document's round. -/
theorem eq_of_result_ofDocuments {store : Store} {documents : List Record}
    {eliminations : List Elimination}
    (given : (ofDocuments documents).result store = .ok eliminations) :
    eliminations = documents.filterMap (inRounds? store.rounds.documents) := by
  obtain ⟨-, arenas, looked, -, rfl⟩ := result_ofDocuments_eq_ok.1 given
  obtain ⟨-, -, rfl⟩ := result_readArenasOfRounds_eq_ok.1 looked
  exact List.filterMap_congr fun document member =>
    ofDocument?_arenasOfRounds store.rounds.documents member

/-- Eliminations are made of documents that can be written as text, if the rounds can be read. -/
theorem result_ofDocuments {store : Store} {documents : List Record}
    (sound : store.rounds.fault = none)
    (rounds : ∀ round ∈ store.rounds.documents, Value.fieldsLegible round = true)
    (written : ∀ document ∈ documents, Value.fieldsLegible document = true) :
    (ofDocuments documents).result store =
      .ok (documents.filterMap (inRounds? store.rounds.documents)) := by
  have named : Value.areLegible ((documents.filter lacksArena).map (·.get "round_id")) = true :=
    Value.areLegible_map_get
      (fun document found => written document (List.mem_filter.1 found).1) "round_id"
  have arenas : Value.areLegible ((store.rounds.documents.filter
      (Condition.among "_id" (lookedUp documents)).holds).map (·.get "arena_id")) = true :=
    Value.areLegible_map_get
      (fun round found => rounds round (List.mem_filter.1 found).1) "arena_id"
  have labelled : ∀ arenas, Value.areLegible (documents.flatMap (labels arenas)) = true := by
    refine fun arenas => Value.areLegible_iff.2 fun value member => ?_
    obtain ⟨document, found, label⟩ := List.mem_flatMap.1 member
    exact isLegible_of_mem_labels (written document found) label
  have reached : ∃ eliminations, (ofDocuments documents).result store = .ok eliminations :=
    ⟨_, result_ofDocuments_eq_ok.2 ⟨named, _,
      result_readArenasOfRounds_eq_ok.2 ⟨fun _ => sound, arenas, rfl⟩, labelled _, rfl⟩⟩
  obtain ⟨eliminations, given⟩ := reached
  rw [given, eq_of_result_ofDocuments given]

theorem filter_all (documents : List Record) :
    documents.filter Condition.all.holds = documents :=
  List.filter_eq_self.2 fun _ _ => rfl

/-- All eliminations are those of all documents. -/
theorem result_readAll_eq_ok {store : Store} {eliminations : List Elimination} :
    readAll.result store = .ok eliminations ↔
      store.eliminations.fault = none ∧
        (ofDocuments store.eliminations.documents).result store = .ok eliminations := by
  rw [readAll, Read.result_part_eq_ok, Read.result_bind_eq_ok]
  simp only [Read.result_find_eq_ok, Store.get, filter_all, and_assoc, exists_and_left,
    exists_eq_left']

/-- The eliminations that are read are those of the documents, each with the arena of its round. -/
theorem eq_of_result_readAll {store : Store} {eliminations : List Elimination}
    (given : readAll.result store = .ok eliminations) :
    eliminations = store.eliminations.documents.filterMap (inRounds? store.rounds.documents) :=
  eq_of_result_ofDocuments (result_readAll_eq_ok.1 given).2

theorem result_readAll {store : Store} (sound : store.rounds.fault = none)
    (sound' : store.eliminations.fault = none) (legible : store.Legible) :
    readAll.result store =
      .ok (store.eliminations.documents.filterMap (inRounds? store.rounds.documents)) :=
  result_readAll_eq_ok.2
    ⟨sound', result_ofDocuments sound (legible .rounds) (legible .eliminations)⟩

/-- The eliminations from rounds are those of the documents that name one of them. Without rounds
nothing is asked for, and there are none. -/
theorem result_readOfRounds {store : Store} (sound : store.rounds.fault = none)
    (sound' : store.eliminations.fault = none) (legible : store.Legible) (roundIds : List String) :
    (readOfRounds roundIds).result store =
      .ok ((store.eliminations.documents.filter
        (Condition.among "round_id" roundIds).holds).filterMap
          (inRounds? store.rounds.documents)) := by
  rw [readOfRounds, Read.result_part_eq_ok]
  cases roundIds with
  | nil => rw [filter_among_nil]; rfl
  | cons roundId roundIds =>
    have asked : ¬ (roundId :: roundIds).isEmpty = true := Bool.false_ne_true
    have found : (Read.find ⟨.eliminations, .among "round_id" (roundId :: roundIds)⟩).result
        store = .ok _ := Read.result_find_eq_ok.2 ⟨sound', rfl⟩
    rw [if_neg asked, Read.result_bind_of_eq_ok found]
    exact result_ofDocuments sound (legible .rounds) fun document member =>
      legible .eliminations document (List.mem_filter.1 member).1

end Elimination

/-- The rounds of an arena are its documents in order, without those that do not pass their
check. -/
theorem Round.result_readOfArena_eq_ok {store : Store} {arenaId : String} {rounds : List Round} :
    (readOfArena arenaId).result store = .ok rounds ↔
      let documents :=
        inOrder (store.rounds.documents.filter (Condition.equals "arena_id" arenaId).holds)
      store.rounds.fault = none ∧ Value.areLegible (documents.map (·.get "_id")) = true ∧
        (documents.filterMap fun document => (ofDocument document).toOption) = rounds := by
  simp [readOfArena, Store.get]

/-- The rounds of an arena come as they lie in the storage if they lie in order there. -/
theorem Round.result_readOfArena_of_sorted {store : Store} {arenaId : String}
    (sound : store.rounds.fault = none)
    (sorted : (store.rounds.documents.filter (Condition.equals "arena_id" arenaId).holds).Pairwise
      fun first second => (first.get "round_number").mayPrecede (second.get "round_number") = true)
    (legible : Value.areLegible ((store.rounds.documents.filter
      (Condition.equals "arena_id" arenaId).holds).map (·.get "_id")) = true) :
    (readOfArena arenaId).result store =
      .ok ((store.rounds.documents.filter (Condition.equals "arena_id" arenaId).holds).filterMap
        fun document => (ofDocument document).toOption) := by
  rw [result_readOfArena_eq_ok, inOrder, List.mergeSort_of_pairwise sorted]
  exact ⟨sound, legible, rfl⟩

namespace Identity

/-- The users with these identifiers are read, unless they are asked for and cannot be. -/
theorem result_readByIds_eq_ok {store : Store} {userIds : List String}
    {identities : List Identity} :
    (readByIds userIds).result store = .ok identities ↔
      (userIds ≠ [] → store.users.fault = none) ∧
        (store.users.documents.filter (Condition.among "_id" userIds).holds).filterMap ofDocument? =
          identities := by
  unfold readByIds
  cases userIds with
  | nil => simp [filter_among_nil]
  | cons userId userIds => simp [Store.get]

end Identity

end ArenaStandings
