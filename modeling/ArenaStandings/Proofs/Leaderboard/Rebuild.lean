import ArenaStandings.Leaderboard.Rebuild
import ArenaStandings.Proofs.Game.Amounts
import ArenaStandings.Proofs.Leaderboard.Ranking
import ArenaStandings.Proofs.Leaderboard.Tallies
import ArenaStandings.Proofs.Store.Reading

/-!
# The ranking of a storage

What the rebuild comes to can be read off the documents: `Leaderboard.rankingIn` is the ranking of a
storage, and the rebuild gives it whenever it succeeds (`Leaderboard.eq_of_result_readRanked`),
which it does if the storage can be read and its integers be written
(`Leaderboard.result_readRanked`). Each player in it has one line, made from the player's tally and
the wallet of the user's document (`Leaderboard.mem_standingsIn`), and what was paid to it is a
number (`Leaderboard.areComparable_standingsIn`).
-/

namespace ArenaStandings

/-- What was paid to a player is a number, whatever the rounds say. -/
theorem Tally.isNaN_totalYield {rounds : List ResolvedRound} {eliminations : List Elimination}
    {userId : String} {tally : Tally}
    (found : (collect rounds eliminations).find? userId = some tally) :
    tally.totalYield.isNaN = false := by
  rw [eq_addAll_of_find? found, totalYield_addAll]
  refine Double.isNaN_foldl_add (by decide) fun amount member => ?_
  obtain ⟨mark, counted, paid⟩ := List.mem_filterMap.1 member
  rcases mem_marks.1 (mem_marksOf.1 counted) with ⟨round, -, choice, -, -, rfl⟩ |
    ⟨round, -, payout, given, -, rfl⟩ | ⟨elimination, -, -, rfl⟩
  · cases paid
  · cases paid
    exact Metadata.isFinite_amount given
  · cases paid

/-! ## Lines -/

namespace Roster

/-- The wallets of identities that differ in their users. -/
theorem find?_wallets_eq_some_iff {identities : List Identity}
    (unique : ∀ first ∈ identities, ∀ second ∈ identities,
      first.id = second.id → first = second)
    {userId wallet : String} :
    (wallets identities).find? userId = some wallet ↔ ⟨userId, wallet⟩ ∈ identities := by
  rw [wallets, Table.find?_ofList_eq_some_iff]
  · simp only [List.mem_map, Prod.mk.injEq]
    constructor
    · rintro ⟨identity, member, rfl, rfl⟩
      exact member
    · intro member
      exact ⟨_, member, rfl, rfl⟩
  · simp only [List.forall_mem_map]
    intro first member second member' same
    rw [unique first member second member' same]

theorem mem_join {tallies : Tally.All} {identities : List Identity} {line : Standing} :
    line ∈ join tallies identities ↔
      ∃ userId tally wallet, tallies.find? userId = some tally ∧
        (wallets identities).find? userId = some wallet ∧
        line = standing userId wallet tally := by
  simp only [join, List.mem_filterMap, Option.map_eq_some_iff, Prod.exists]
  constructor
  · rintro ⟨userId, tally, row, wallet, known, rfl⟩
    exact ⟨userId, tally, wallet, (Table.find?_eq_some_iff tallies).2 row, known, rfl⟩
  · rintro ⟨userId, tally, wallet, found, known, rfl⟩
    exact ⟨userId, tally, (Table.find?_eq_some_iff tallies).1 found, wallet, known, rfl⟩

/-- What was paid to whoever is on a roster is a number. -/
theorem isNaN_of_mem_join {rounds : List ResolvedRound} {eliminations : List Elimination}
    {identities : List Identity} {line : Standing}
    (member : line ∈ join (Tally.collect rounds eliminations) identities) :
    line.totalYield.isNaN = false := by
  obtain ⟨userId, tally, wallet, found, -, rfl⟩ := mem_join.1 member
  exact Tally.isNaN_totalYield found

/-- Each user has one line. -/
theorem nodup_ids_join (tallies : Tally.All) (identities : List Identity) :
    ((join tallies identities).map Standing.id).Nodup := by
  have kept : ∀ rows : List (String × Tally),
      ((rows.filterMap fun row => ((wallets identities).find? row.1).map fun wallet =>
        standing row.1 wallet row.2).map Standing.id).Sublist (rows.map Prod.fst) := by
    intro rows
    induction rows with
    | nil => exact .slnil
    | cons row rows ih =>
      rw [List.filterMap_cons, List.map_cons]
      cases (wallets identities).find? row.1 with
      | none => exact ih.cons _
      | some wallet => exact ih.cons_cons _
  exact tallies.keys_nodup.sublist (kept tallies.rows)

end Roster

namespace Leaderboard

/-- The resolved rounds of a storage. -/
def roundsIn (store : Store) : List ResolvedRound :=
  (ResolvedRound.documentsIn store).filterMap ResolvedRound.ofDocument?

/-- The eliminations of a storage. -/
def eliminationsIn (store : Store) : List Elimination :=
  store.eliminations.documents.filterMap (Elimination.inRounds? store.rounds.documents)

/-- The tallies of a storage. -/
def talliesIn (store : Store) : Tally.All := Tally.collect (roundsIn store) (eliminationsIn store)

/-- The identities of the users who have a tally. -/
def identitiesIn (store : Store) : List Identity :=
  (store.users.documents.filter
    (Condition.among "_id" (usersOf (talliesIn store))).holds).filterMap Identity.ofDocument?

/-- The lines of the ranking, in no order yet. -/
def standingsIn (store : Store) : List Standing :=
  Roster.join (talliesIn store) (identitiesIn store)

/-- The ranking of a storage. -/
def rankingIn (store : Store) : List Standing := Roster.rank (standingsIn store)

theorem mem_usersOf {tallies : Tally.All} {userId : String} {tally : Tally}
    (found : tallies.find? userId = some tally) : userId ∈ usersOf tallies :=
  List.mem_mergeSort.2 (tallies.mem_keys_iff.2 ⟨tally, found⟩)

/-- Without tallies there are no users to look up, and nobody to rank. -/
theorem rank_join_of_isEmpty {tallies : Tally.All} (none : tallies.keys.isEmpty = true)
    (identities : List Identity) :
    usersOf tallies = [] ∧ Roster.rank (Roster.join tallies identities) = [] := by
  have keys : tallies.keys = [] := List.isEmpty_iff.1 none
  have rows : tallies.rows = [] := List.map_eq_nil_iff.1 keys
  constructor
  · rw [usersOf, keys, List.mergeSort_nil]
  · have nobody : Roster.join tallies identities = [] := by
      rw [Roster.join, rows, List.filterMap_nil]
    rw [nobody, Roster.rank, Roster.inOrder_eq_mergeSort rfl, List.mergeSort_nil]
    rfl

/-- The rebuild is the rounds and the eliminations, then the identities, then the ranking. That
nobody is looked up when there are no tallies makes no difference. -/
theorem result_readRanked_eq_ok {store : Store} {ranked : List Standing} :
    readRanked.result store = .ok ranked ↔
      ∃ rounds eliminations identities,
        ResolvedRound.readAll.result store = .ok rounds ∧
        Elimination.readAll.result store = .ok eliminations ∧
        (Identity.readByIds (usersOf (Tally.collect rounds eliminations))).result store =
          .ok identities ∧
        Roster.rank (Roster.join (Tally.collect rounds eliminations) identities) = ranked := by
  unfold readRanked
  simp only [Read.result_bind_eq_ok]
  constructor
  · rintro ⟨rounds, given, eliminations, given', rest⟩
    refine ⟨rounds, eliminations, ?_⟩
    split at rest
    · rename_i none
      obtain ⟨nobody, empty⟩ := rank_join_of_isEmpty none []
      cases rest
      exact ⟨[], given, given', by rw [nobody]; rfl, empty⟩
    · simp only [Read.result_bind_eq_ok, Read.result_log, Read.result_pure,
        Except.ok.injEq] at rest
      obtain ⟨identities, named, -, -, ranked⟩ := rest
      exact ⟨identities, given, given', named, ranked⟩
  · rintro ⟨rounds, eliminations, identities, given, given', named, rfl⟩
    refine ⟨rounds, given, eliminations, given', ?_⟩
    split
    · rename_i none
      rw [(rank_join_of_isEmpty none identities).2]
      rfl
    · simp only [Read.result_bind_eq_ok, Read.result_log, Read.result_pure]
      exact ⟨identities, named, (), trivial, rfl⟩

/-- When the rebuild succeeds it gives the ranking of the storage. -/
theorem eq_of_result_readRanked {store : Store} {ranked : List Standing}
    (built : readRanked.result store = .ok ranked) : ranked = rankingIn store := by
  obtain ⟨rounds, eliminations, identities, given, given', named, rfl⟩ :=
    result_readRanked_eq_ok.1 built
  obtain ⟨-, -, rfl⟩ := ResolvedRound.result_readAll_eq_ok.1 given
  obtain rfl := Elimination.eq_of_result_readAll given'
  obtain ⟨-, rfl⟩ := Identity.result_readByIds_eq_ok.1 named
  rfl

/-- The rebuild succeeds if all that it asks for can be read and written as text. Users are asked
for if there are tallies. -/
theorem result_readRanked_of_asked {store : Store} (legible : store.Legible)
    (rounds : store.rounds.fault = none) (eliminations : store.eliminations.fault = none)
    (users : usersOf (talliesIn store) ≠ [] → store.users.fault = none) :
    readRanked.result store = .ok (rankingIn store) :=
  result_readRanked_eq_ok.2 ⟨roundsIn store, eliminationsIn store, identitiesIn store,
    ResolvedRound.result_readAll rounds legible,
    Elimination.result_readAll rounds eliminations legible,
    Identity.result_readByIds_eq_ok.2 ⟨users, rfl⟩, rfl⟩

/-- The rebuild succeeds on a storage that can be read and written as text. -/
theorem result_readRanked {store : Store} (readable : store.Readable) (legible : store.Legible) :
    readRanked.result store = .ok (rankingIn store) :=
  result_readRanked_of_asked legible (readable .rounds) (readable .eliminations)
    fun _ => readable .users

/-! ## Who is in the ranking -/

theorem mem_roundsIn {store : Store} {round : ResolvedRound} :
    round ∈ roundsIn store ↔
      ∃ document ∈ store.rounds.documents, document.get "state" = .text resolvedState ∧
        document.get "arena_id" ≠ .null ∧
        ⟨(document.get "arena_id").toText, document.get "metadata"⟩ = round := by
  simp only [roundsIn, ResolvedRound.documentsIn, List.mem_filterMap, List.mem_filter,
    ResolvedRound.ofDocument?, Condition.holds, beq_iff_eq, Value.text?_eq_some_iff,
    Option.ite_none_left_eq_some, Value.isNull_iff, Option.some.injEq, and_assoc]

theorem mem_eliminationsIn {store : Store} {elimination : Elimination} :
    elimination ∈ eliminationsIn store ↔
      ∃ document ∈ store.eliminations.documents, document.get "user_id" ≠ .null ∧
        ∃ arenaId, Elimination.arenaIn? store.rounds.documents document = some arenaId ∧
          ⟨(document.get "user_id").toText, Elimination.roundId? document, arenaId⟩ =
            elimination := by
  simp only [eliminationsIn, List.mem_filterMap, Elimination.inRounds?,
    Option.ite_none_left_eq_some, Value.isNull_iff, Option.map_eq_some_iff]

/-- An identity is that of a user with a tally whose document has a text as its wallet. -/
theorem mem_identitiesIn {store : Store} {identity : Identity} :
    identity ∈ identitiesIn store ↔
      identity.id ∈ usersOf (talliesIn store) ∧
        ∃ user ∈ store.users.documents, user.get "_id" = .text identity.id ∧
          user.get "wallet_address" = .text identity.wallet := by
  simp only [identitiesIn, List.mem_filterMap, List.mem_filter, Identity.ofDocument?,
    Option.map_eq_some_iff, Value.text?_eq_some_iff, Condition.holds, Option.any_eq_true,
    List.contains_iff_mem]
  constructor
  · rintro ⟨user, ⟨member, userId, named, asked⟩, wallet, shown, rfl⟩
    rw [named]
    exact ⟨asked, user, member, named, shown⟩
  · rintro ⟨asked, user, member, named, shown⟩
    refine ⟨user, ⟨member, identity.id, named, asked⟩, identity.wallet, shown, ?_⟩
    rw [named]
    rfl

/-- **The lines of the ranking.** A player has a line if it has a tally and the document of its user
has a text as its wallet, and the line shows the two. -/
theorem mem_standingsIn {store : Store} (distinct : store.DistinctIds .users) {line : Standing} :
    line ∈ standingsIn store ↔
      ∃ userId tally wallet, (talliesIn store).find? userId = some tally ∧
        (∃ user ∈ store.users.documents, user.get "_id" = .text userId ∧
          user.get "wallet_address" = .text wallet) ∧
        line = Roster.standing userId wallet tally := by
  have unique : ∀ first ∈ identitiesIn store, ∀ second ∈ identitiesIn store,
      first.id = second.id → first = second := by
    rintro ⟨userId, wallet⟩ member ⟨_, wallet'⟩ member' rfl
    obtain ⟨-, user, stored, named, shown⟩ := mem_identitiesIn.1 member
    obtain ⟨-, user', stored', named', shown'⟩ := mem_identitiesIn.1 member'
    obtain rfl := distinct.eq stored stored' (named.trans named'.symm)
    obtain rfl : wallet = wallet' := by simpa using shown.symm.trans shown'
    rfl
  simp only [standingsIn, Roster.mem_join, Roster.find?_wallets_eq_some_iff unique,
    mem_identitiesIn]
  constructor
  · rintro ⟨userId, tally, wallet, found, ⟨-, shown⟩, rfl⟩
    exact ⟨userId, tally, wallet, found, shown, rfl⟩
  · rintro ⟨userId, tally, wallet, found, shown, rfl⟩
    exact ⟨userId, tally, wallet, found, ⟨mem_usersOf found, shown⟩, rfl⟩

theorem areComparable_standingsIn (store : Store) :
    Roster.areComparable (standingsIn store) = true :=
  Roster.areComparable_iff.2 fun _ => Roster.isNaN_of_mem_join

/-- The lines of the ranking, without their ranks, are those of the players. -/
theorem map_rankingIn_perm {α : Type} (store : Store) (view : Standing → α)
    (blind : ∀ standing (rank : Nat), view { standing with rank := rank } = view standing) :
    ((rankingIn store).map view).Perm ((standingsIn store).map view) :=
  Roster.map_rank_perm (areComparable_standingsIn store) view blind

end Leaderboard

end ArenaStandings
