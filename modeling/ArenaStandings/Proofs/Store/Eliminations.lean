import ArenaStandings.Proofs.Store.Queries

/-!
# Eliminations together and one by one

Where documents of eliminations leave their arena to a round, all these rounds are fetched with one
question. `Elimination.readEach` is the plain way to do it: it takes the documents one after the
other and looks up the round of each. Both give the same eliminations
(`Elimination.account_ofDocuments_eq_each`), as long as no two rounds have one identifier. What a
document comes to therefore does not depend on the other documents that are read with it, and the
eliminations from some rounds are those among all eliminations
(`Elimination.readOfRounds_eq_filter`).
-/

namespace ArenaStandings

namespace Elimination

/-! ## One by one -/

/-- The arena that the document of a round names. -/
def namedArena? (round : Record) : Option String :=
  if (round.get "arena_id").isNull then none else some (round.get "arena_id").toText

/-- The elimination of a document, with a look-up of its own. Without a user there is none. The
document's own arena counts if it is something; if not, the round that it names is looked up, and
there is an elimination if that round is there and names an arena whose text is not empty. -/
def readAlone (document : Record) : Read (Option Elimination) :=
  let user := document.get "user_id"
  let own := document.get "arena_id"
  if user.isNull then return none
  else if own.isTruthy then return some ⟨user.toText, roundId? document, own.toText⟩
  else
    match roundId? document with
    | none => return none
    | some roundId => do
      match ← Read.findFirst ⟨.rounds, .equals "_id" roundId⟩ with
      | none => return none
      | some round =>
        return ((namedArena? round).filter (· ≠ "")).map fun arenaId =>
          ⟨user.toText, some roundId, arenaId⟩

/-- The eliminations of documents, with one look-up after the other. -/
def readEach : List Record → Read (List Elimination)
  | [] => return []
  | document :: documents => do
    let elimination? ← readAlone document
    let eliminations ← readEach documents
    return elimination?.toList ++ eliminations

variable {store : Store} {documents : List Record}

/-- Of rounds with different identifiers, the first one found is the one whose arena counts. -/
theorem arenaOfRound?_eq_find? {rounds : List Record}
    (distinct : (rounds.map (·.get "_id")).Nodup) (roundId : String) :
    arenaOfRound? rounds roundId =
      (rounds.find? (Condition.equals "_id" roundId).holds).bind namedArena? := by
  -- The last round with an arena counts on the left, the first round on the right.
  ext arenaId
  rw [arenaOfRound?_eq_some_iff distinct, Option.bind_eq_some_iff]
  constructor
  · intro known
    obtain ⟨round, stored, identifier, present, named⟩ := known
    have asked : (Condition.equals "_id" roundId).holds round = true :=
      Condition.holds_equals_iff.2 identifier
    obtain ⟨other, found⟩ :=
      Option.isSome_iff_exists.1 (List.find?_isSome.2 ⟨round, stored, asked⟩)
    have identifier' := Condition.holds_equals_iff.1 (List.find?_some found)
    obtain rfl := List.inj_on_of_nodup_map distinct stored (List.mem_of_find?_eq_some found)
      (identifier.trans identifier'.symm)
    refine ⟨round, found, ?_⟩
    rw [namedArena?, if_neg fun absent => present (Value.isNull_iff.1 absent), named]
  · intro known
    obtain ⟨round, found, named⟩ := known
    rw [namedArena?, Option.ite_none_left_eq_some, Value.isNull_iff] at named
    exact ⟨round, List.mem_of_find?_eq_some found,
      Condition.holds_equals_iff.1 (List.find?_some found), named.1, Option.some.inj named.2⟩

theorem result_readAlone (sound : store.rounds.fault = none) (distinct : store.DistinctIds .rounds)
    (document : Record) :
    (readAlone document).result store = .ok (inRounds? store.rounds.documents document) := by
  unfold readAlone inRounds? arenaIn?
  dsimp only
  split
  · rfl
  split
  · rfl
  cases named : roundId? document with
  | none => rfl
  | some roundId =>
    have found : (Read.findFirst ⟨.rounds, .equals "_id" roundId⟩).result store =
        .ok (store.rounds.documents.find? (Condition.equals "_id" roundId).holds) :=
      Read.result_findFirst_eq_ok.2 ⟨sound, rfl⟩
    have known : arenaOfRound? store.rounds.documents roundId =
        (store.rounds.documents.find? (Condition.equals "_id" roundId).holds).bind namedArena? :=
      arenaOfRound?_eq_find? distinct roundId
    dsimp only
    rw [Read.result_bind_of_eq_ok found, Option.bind_some, known]
    cases store.rounds.documents.find? (Condition.equals "_id" roundId).holds <;> rfl

theorem result_readEach (sound : store.rounds.fault = none) (distinct : store.DistinctIds .rounds)
    (documents : List Record) :
    (readEach documents).result store =
      .ok (documents.filterMap (inRounds? store.rounds.documents)) := by
  induction documents with
  | nil => rfl
  | cons document documents ih =>
    rw [readEach, Read.result_bind_of_eq_ok (result_readAlone sound distinct document),
      Read.result_bind_of_eq_ok ih, Read.result_pure, List.filterMap_cons]
    cases inRounds? store.rounds.documents document <;> rfl

/-- **One look-up for all is a look-up for each.** If the rounds can be read and have different
identifiers, and all integers can be written, then the eliminations of documents are those that
looking up the round of each document on its own gives, in the same order. They are made with one
question, for exactly the rounds that a document leaves its arena to; if there is no such document,
with none. -/
theorem account_ofDocuments_eq_each (sound : store.rounds.fault = none)
    (distinct : store.DistinctIds .rounds)
    (legible : ∀ round ∈ store.rounds.documents, Value.fieldsLegible round = true)
    (written : ∀ document ∈ documents, Value.fieldsLegible document = true) :
    ∃ eliminations queries, (readEach documents).result store = .ok eliminations ∧
      (ofDocuments documents).account store = .ok (eliminations, queries) ∧
      LooksUp .rounds (fun roundId => ∃ document ∈ documents, LeavesTo document roundId)
        queries := by
  have together := result_ofDocuments sound legible written
  refine ⟨_, _, result_readEach sound distinct documents, ?_, looksUp_lookedUp documents⟩
  exact (asks_ofDocuments store documents).account_eq together

/-- Rounds of which one names an arena, one none, and one an empty text. -/
def mixedRounds : Store where
  rounds := ⟨[[("_id", .text "r"), ("arena_id", .int 7)], [("_id", .text "s")],
    [("_id", .text "t"), ("arena_id", .text "")]], none⟩
  eliminations := ⟨[], none⟩
  users := ⟨[], none⟩
  arenas := ⟨[], none⟩

/-- Documents without a user, with an arena of their own, with a round that names an arena or does
not, with an unknown round, and with no round. -/
def mixedDocuments : List Record :=
  [[("_id", .text "k"), ("round_id", .text "q")],
    [("user_id", .text "u"), ("round_id", .text "r"), ("arena_id", .text "a")],
    [("user_id", .int 5), ("round_id", .text "r"), ("arena_id", .int 0)],
    [("user_id", .text "v"), ("round_id", .text "s")],
    [("user_id", .text "v"), ("round_id", .text "t"), ("arena_id", .list [])],
    [("user_id", .text "w"), ("round_id", .objectId "r")],
    [("user_id", .text "w"), ("round_id", .int 12)], [("user_id", .text "w")]]

/-- Of the eight documents three are eliminations, found with one question. -/
theorem account_ofDocuments_eq_each_mixed :
    ∃ eliminations queries, (readEach mixedDocuments).result mixedRounds = .ok eliminations ∧
      (ofDocuments mixedDocuments).account mixedRounds = .ok (eliminations, queries) ∧
      eliminations =
        [⟨"u", some "r", "a"⟩, ⟨"5", some "r", "7"⟩, ⟨"w", some "r", "7"⟩] ∧
      LooksUp .rounds (fun roundId => ∃ document ∈ mixedDocuments, LeavesTo document roundId)
        queries := by
  have distinct : mixedRounds.DistinctIds .rounds := by
    simp [Store.DistinctIds, Store.get, mixedRounds, Record.get, Record.get?, Table.lookupRows]
  obtain ⟨eliminations, queries, each, together, looked⟩ :=
    @account_ofDocuments_eq_each mixedRounds mixedDocuments rfl distinct (by decide +kernel)
      (by decide +kernel)
  have shown : (readEach mixedDocuments).result mixedRounds =
      .ok [⟨"u", some "r", "a"⟩, ⟨"5", some "r", "7"⟩, ⟨"w", some "r", "7"⟩] := by
    decide +kernel
  exact ⟨eliminations, queries, each, together, Except.ok.inj (each.symm.trans shown), looked⟩

/-! ## Some among all -/

/-- An elimination shows the round that its document names. -/
theorem roundId_of_inRounds? {rounds : List Record} {document : Record} {elimination : Elimination}
    (made : inRounds? rounds document = some elimination) :
    elimination.roundId = roundId? document := by
  unfold inRounds? at made
  split at made
  · cases made
  · obtain ⟨arenaId, -, rfl⟩ := Option.map_eq_some_iff.1 made
    rfl

/-- A document that names its round by a text, or names none, is asked for by its round exactly if
the elimination shows one of the rounds asked for. -/
theorem any_roundId?_eq_holds {document : Record}
    (named : document.get "round_id" = .null ∨
      ∃ roundId, document.get "round_id" = .text roundId)
    (roundIds : List String) :
    (roundId? document).any (· ∈ roundIds) =
      (Condition.among "round_id" roundIds).holds document := by
  rw [Bool.eq_iff_iff, Condition.holds_among_iff, Option.any_eq_true]
  rcases named with absent | present
  · simp [roundId?, absent, Value.isNull]
  · obtain ⟨roundId, present⟩ := present
    rw [roundId?_of_text present, present]
    simp

/-- **The eliminations from some rounds are those among all.** Let a storage be readable and its
integers be writable, and let each document of an elimination name its round by a text, or name
none. Then the eliminations that are read for some rounds are those of all eliminations that show
one of these rounds, in the same order. -/
theorem readOfRounds_eq_filter (readable : store.Readable) (legible : store.Legible)
    (named : ∀ document ∈ store.eliminations.documents,
      document.get "round_id" = .null ∨ ∃ roundId, document.get "round_id" = .text roundId)
    (roundIds : List String) :
    ∃ eliminations, readAll.result store = .ok eliminations ∧
      (readOfRounds roundIds).result store =
        .ok (eliminations.filter fun elimination => elimination.roundId.any (· ∈ roundIds)) := by
  refine ⟨_, result_readAll (readable .rounds) (readable .eliminations) legible, ?_⟩
  rw [result_readOfRounds (readable .rounds) (readable .eliminations) legible, Except.ok.injEq,
    List.filterMap_filter, List.filter_filterMap]
  refine List.filterMap_congr fun document member => ?_
  cases made : inRounds? store.rounds.documents document with
  | none => rw [ite_self]; rfl
  | some elimination =>
    rw [Option.filter_some, roundId_of_inRounds? made,
      any_roundId?_eq_holds (named document member)]

/-- Eliminations from two rounds of one arena, and one that no round is named for. -/
def twoRounds : Store where
  rounds := ⟨[[("_id", .text "r"), ("arena_id", .text "a")],
    [("_id", .text "s"), ("arena_id", .text "a")]], none⟩
  eliminations := ⟨[[("user_id", .text "u"), ("round_id", .text "s")],
    [("user_id", .text "v"), ("arena_id", .text "a")],
    [("user_id", .text "w"), ("round_id", .text "r"), ("arena_id", .text "a")],
    [("user_id", .text "u"), ("round_id", .text "s"), ("arena_id", .text "b")]], none⟩
  users := ⟨[], none⟩
  arenas := ⟨[], none⟩

/-- The second round has two of the four eliminations. -/
theorem readOfRounds_eq_filter_second :
    ∃ eliminations, readAll.result twoRounds = .ok eliminations ∧ eliminations.length = 4 ∧
      (readOfRounds ["s", "x"]).result twoRounds =
        .ok (eliminations.filter fun elimination => elimination.roundId.any (· ∈ ["s", "x"])) ∧
      (readOfRounds ["s", "x"]).result twoRounds =
        .ok [⟨"u", some "s", "a"⟩, ⟨"u", some "s", "b"⟩] := by
  obtain ⟨eliminations, all, chosen⟩ := @readOfRounds_eq_filter twoRounds (by decide)
    (by decide +kernel) (by
      simp [twoRounds, Record.get, Record.get?, Table.lookupRows]) ["s", "x"]
  have shown : readAll.result twoRounds = .ok [⟨"u", some "s", "a"⟩, ⟨"v", none, "a"⟩,
      ⟨"w", some "r", "a"⟩, ⟨"u", some "s", "b"⟩] := by decide +kernel
  obtain rfl := Except.ok.inj (all.symm.trans shown)
  exact ⟨_, all, rfl, chosen, chosen⟩

end Elimination

end ArenaStandings
