import ArenaStandings.Proofs.Leaderboard.Pages
import ArenaStandings.Proofs.Leaderboard.Rebuild
import ArenaStandings.Proofs.Store.Queries

/-!
# The queries of a rebuild

However many documents a storage holds, the ranking is rebuilt with four questions at most: for the
resolved rounds, for all eliminations, for the rounds that eliminations leave their arena to, and
for the users who have a tally (`Leaderboard.queries_of_rebuild`). The last two are asked only if
something is wanted, and a page is cut from the ranking without asking again
(`Leaderboard.account_readPage`).
-/

namespace ArenaStandings

variable {store : Store}

theorem ResolvedRound.asks_readAll (store : Store) :
    readAll.Asks store [⟨.rounds, .equals "state" resolvedState⟩] := by
  apply Read.Asks.part
  apply (Read.asks_find _).bind rfl
  intro documents _
  apply (Read.asks_requireLegible _).bind rfl
  intro _ _
  apply (Read.asks_log _).bind rfl
  intro _ _
  exact Read.asks_pure _

theorem Elimination.asks_readAll (store : Store) :
    readAll.Asks store
      (⟨.eliminations, .all⟩ ::
        Query.lookUp .rounds (lookedUp store.eliminations.documents)) := by
  apply Read.Asks.part
  apply (Read.asks_find _).bind rfl
  intro documents given
  obtain ⟨-, rfl⟩ := Read.result_find_eq_ok.1 given
  rw [filter_all]
  exact asks_ofDocuments store _

theorem Identity.asks_readByIds (store : Store) (userIds : List String) :
    (readByIds userIds).Asks store (Query.lookUp .users userIds) := by
  apply Read.Asks.part
  unfold Query.lookUp
  split
  · exact Read.asks_pure _
  · apply (Read.asks_find _).bind rfl
    intro documents _
    apply (Read.asks_log _).bind rfl
    intro _ _
    exact Read.asks_pure _

namespace Leaderboard

/-- The queries of a rebuild, with those that look up rounds and those that look up users. -/
def rebuildQueries (roundQueries userQueries : List Query) : List Query :=
  [⟨.rounds, .equals "state" resolvedState⟩, ⟨.eliminations, .all⟩] ++ roundQueries ++
    userQueries

theorem length_rebuildQueries_le {Wanted Wanted' : String → Prop}
    {roundQueries userQueries : List Query} (rounds : LooksUp .rounds Wanted roundQueries)
    (users : LooksUp .users Wanted' userQueries) :
    (rebuildQueries roundQueries userQueries).length ≤ 4 := by
  have few := rounds.length_le
  have few' := users.length_le
  simp only [rebuildQueries, List.length_append, List.length_cons, List.length_nil]
  omega

/-- A rebuild asks for the rounds that eliminations leave their arena to, and for the users with a
tally, whatever else the storage holds. -/
theorem asks_readRanked (store : Store) :
    readRanked.Asks store
      (rebuildQueries (Query.lookUp .rounds (Elimination.lookedUp store.eliminations.documents))
        (Query.lookUp .users (usersOf (talliesIn store)))) := by
  apply (ResolvedRound.asks_readAll store).bind rfl
  intro rounds given
  obtain ⟨-, -, rfl⟩ := ResolvedRound.result_readAll_eq_ok.1 given
  apply (Elimination.asks_readAll store).bind rfl
  intro eliminations given'
  obtain rfl := Elimination.eq_of_result_readAll given'
  change (if (talliesIn store).keys.isEmpty then _ else _ : Read _).Asks store _
  split
  · rename_i nobody
    rw [(rank_join_of_isEmpty nobody []).1]
    exact Read.asks_pure _
  · apply (Identity.asks_readByIds store _).bind (List.append_nil _)
    intro identities _
    apply (Read.asks_log _).bind rfl
    intro _ _
    exact Read.asks_pure _

/-- The users that are looked up are those with a tally. -/
theorem looksUp_usersOf (tallies : Tally.All) :
    LooksUp .users (· ∈ tallies.keys) (Query.lookUp .users (usersOf tallies)) := by
  have ascending : (usersOf tallies).SortedLT := Sorting.sortedLT_mergeSort tallies.keys_nodup
  exact .lookUp ascending fun userId => List.mem_mergeSort

/-- A page is cut from the ranking without another question. -/
theorem account_readPage {ranked : List Standing} {queries : List Query}
    (built : readRanked.account store = .ok (ranked, queries)) (limit : Int)
    (cursor : Option String) :
    (readPage limit cursor).account store = (Page.cut ranked limit cursor).map (·, queries) := by
  rw [readPage, Read.account_bind_of_eq_ok built]
  cases Page.cut ranked limit cursor with
  | error failure => rfl
  | ok page => exact congrArg (fun asked => Except.ok (page, asked)) (List.append_nil queries)

/-- **A rebuild makes four queries at most.** On a storage that can be read and whose integers can
be written, the ranking is rebuilt with exactly these queries: for the resolved rounds; for all
eliminations; if some document of an elimination leaves its arena to a round, one for exactly these
rounds; and if the rounds and eliminations make a tally for somebody, one for exactly the users with
a tally. Both look-ups ask for each identifier once and in ascending order. A page is cut from the
ranking with no further query. -/
theorem queries_of_rebuild (readable : store.Readable) (legible : store.Legible) :
    ∃ rounds eliminations roundQueries userQueries,
      ResolvedRound.readAll.result store = .ok rounds ∧
      Elimination.readAll.result store = .ok eliminations ∧
      LooksUp .rounds (fun roundId => ∃ document ∈ store.eliminations.documents,
        Elimination.LeavesTo document roundId) roundQueries ∧
      LooksUp .users (· ∈ (Tally.collect rounds eliminations).keys) userQueries ∧
      (rebuildQueries roundQueries userQueries).length ≤ 4 ∧
      readRanked.account store =
        .ok (rankingIn store, rebuildQueries roundQueries userQueries) ∧
      ∀ limit cursor, (readPage limit cursor).account store =
        (Page.cut (rankingIn store) limit cursor).map
          (·, rebuildQueries roundQueries userQueries) := by
  have looked := Elimination.looksUp_lookedUp store.eliminations.documents
  have looked' := looksUp_usersOf (talliesIn store)
  have built := (asks_readRanked store).account_eq (result_readRanked readable legible)
  exact ⟨roundsIn store, eliminationsIn store, _, _,
    ResolvedRound.result_readAll (readable .rounds) legible,
    Elimination.result_readAll (readable .rounds) (readable .eliminations) legible, looked, looked',
    length_rebuildQueries_le looked looked', built, account_readPage built⟩

/-- A player chose in a round, and two eliminations leave their arena to it; a third has none. -/
def loneStore : Store where
  rounds := ⟨[[("_id", .text "r"), ("state", .text "RESOLVED"), ("arena_id", .text "a"),
    ("metadata", .record [("playerChoices", .list [.record [("userId", .text "u")]])])]], none⟩
  eliminations := ⟨[[("_id", .text "k"), ("user_id", .text "u"), ("round_id", .text "r")],
    [("_id", .text "l"), ("user_id", .text "u"), ("round_id", .text "r"), ("arena_id", .int 0)],
    [("_id", .text "m"), ("user_id", .text "v")]], none⟩
  users := ⟨[[("_id", .text "u"), ("wallet_address", .text "0x1")]], none⟩
  arenas := ⟨[], none⟩

/-- Here all four questions are asked. -/
theorem queries_of_rebuild_lone :
    ∃ roundQueries userQueries,
      LooksUp .rounds (fun roundId => ∃ document ∈ loneStore.eliminations.documents,
        Elimination.LeavesTo document roundId) roundQueries ∧
      rebuildQueries roundQueries userQueries =
        [⟨.rounds, .equals "state" "RESOLVED"⟩, ⟨.eliminations, .all⟩,
          ⟨.rounds, .among "_id" ["r"]⟩, ⟨.users, .among "_id" ["u"]⟩] ∧
      readRanked.account loneStore =
        .ok (rankingIn loneStore, rebuildQueries roundQueries userQueries) := by
  obtain ⟨rounds, eliminations, roundQueries, userQueries, -, -, looked, -, -, built, -⟩ :=
    @queries_of_rebuild loneStore (by decide) (by decide +kernel)
  have shown : readRanked.account loneStore = .ok ([⟨"u", 1, "0x1", 0, 0, 0⟩],
      [⟨.rounds, .equals "state" "RESOLVED"⟩, ⟨.eliminations, .all⟩,
        ⟨.rounds, .among "_id" ["r"]⟩, ⟨.users, .among "_id" ["u"]⟩]) := by decide +kernel
  have same := Except.ok.inj (built.symm.trans shown)
  exact ⟨roundQueries, userQueries, looked, congrArg Prod.snd same, built⟩

end Leaderboard

end ArenaStandings
