import ArenaStandings.Proofs.Leaderboard.Rebuild

/-!
# An arena that was lost is not won

An elimination that names a round and no arena counts in the arena of the round, if the round's
identifier is a text (`Elimination.arenaIn?_of_text`). The player's tally then has the arena among
the lost ones, and whatever was played and lost is not won (`Leaderboard.not_won_of_eliminated`).
Rounds are looked up by texts. An object identifier is written as a text to look for its round, and
no round with an object identifier is found by it (`Elimination.arenaIn?_of_objectId`): such an
elimination does not count, and the player is credited with the arena
(`Leaderboard.won_of_objectId`).
-/

namespace ArenaStandings

namespace Elimination

variable {rounds : List Record} {document : Record}

/-- The arena of an elimination that names a round by a text is that of the round. -/
theorem arenaIn?_of_text (distinct : (rounds.map (·.get "_id")).Nodup) {round : Record}
    {roundId arenaId : String} (lacking : (document.get "arena_id").isTruthy = false)
    (named : document.get "round_id" = .text roundId) (stored : round ∈ rounds)
    (identifier : round.get "_id" = .text roundId) (arena : round.get "arena_id" = .text arenaId)
    (nonempty : arenaId ≠ "") : arenaIn? rounds document = some arenaId := by
  have looked : arenaOfRound? rounds roundId = some arenaId :=
    (arenaOfRound?_eq_some_iff distinct).2
      ⟨round, stored, identifier, by simp [arena], by rw [arena]; rfl⟩
  rw [arenaIn?, lacking, roundId?, named]
  change ((some roundId).bind (arenaOfRound? rounds)).filter (· ≠ "") = some arenaId
  rw [Option.bind_some, looked, Option.filter_some_pos (by simpa using nonempty)]

/-- An elimination that names a round by an object identifier has no arena, unless the same digits
are the text of another round. -/
theorem arenaIn?_of_objectId (distinct : (rounds.map (·.get "_id")).Nodup) {hex : String}
    (lacking : (document.get "arena_id").isTruthy = false)
    (named : document.get "round_id" = .objectId hex)
    (untold : ∀ round ∈ rounds, round.get "_id" ≠ .text hex) :
    arenaIn? rounds document = none := by
  have missed : arenaOfRound? rounds hex = none := by
    refine Option.eq_none_iff_forall_ne_some.2 fun arenaId found => ?_
    obtain ⟨round, stored, identifier, -⟩ := (arenaOfRound?_eq_some_iff distinct).1 found
    exact untold round stored identifier
  rw [arenaIn?, lacking, roundId?, named]
  change ((some hex).bind (arenaOfRound? rounds)).filter (· ≠ "") = none
  rw [Option.bind_some, missed, Option.filter_none]

end Elimination

namespace Tally

variable {rounds : List ResolvedRound} {eliminations : List Elimination}

/-- Whoever is eliminated has a tally. -/
theorem exists_tally_of_elimination {elimination : Elimination}
    (member : elimination ∈ eliminations) :
    ∃ tally, (collect rounds eliminations).find? elimination.userId = some tally :=
  exists_find?_collect_iff.2 ⟨_, mem_marks.2 (.inr (.inr ⟨elimination, member, rfl, rfl⟩))⟩

/-- The arenas that a player has lost are those of its eliminations. -/
theorem mem_lost_iff {userId arenaId : String} {tally : Tally}
    (found : (collect rounds eliminations).find? userId = some tally) :
    arenaId ∈ tally.lost.toList ↔
      ∃ elimination ∈ eliminations, elimination.userId = userId ∧
        elimination.arenaId = arenaId := by
  rw [eq_addAll_of_find? found, mem_lost_addAll, mem_marksOf, mem_marks]
  simp [empty, Names.empty]

end Tally

namespace Leaderboard

/-- A line of the ranking shows as many arenas won as the tally of its user. -/
theorem arenasWon_of_mem_rankingIn {store : Store} {line : Standing} {tally : Tally}
    (member : line ∈ rankingIn store) (found : (talliesIn store).find? line.id = some tally) :
    line.arenasWon = tally.arenasWon := by
  have view := (map_rankingIn_perm store (fun line => (line.id, line.arenasWon))
    fun _ _ => rfl).mem_iff.1 (List.mem_map_of_mem member)
  obtain ⟨unranked, joined, same⟩ := List.mem_map.1 view
  obtain ⟨userId, other, wallet, found', -, rfl⟩ := Roster.mem_join.1 joined
  obtain ⟨user, won⟩ := Prod.mk.inj same
  rw [← user] at found
  obtain rfl : other = tally := Option.some.inj (found'.symm.trans found)
  exact won.symm

/-- **What was lost is not won.** In a rebuild that succeeds, where rounds have different
identifiers, take an elimination that has a user and no arena and names a round by the text that is
the identifier of a round with an arena. Then the tally of the user has the arena among the lost
ones, so that it is not among those that the user's line shows as won. -/
theorem not_won_of_eliminated {store : Store} {ranked : List Standing}
    (built : readRanked.result store = .ok ranked) (distinct : store.DistinctIds .rounds)
    {document round : Record} {roundId arenaId : String}
    (eliminated : document ∈ store.eliminations.documents)
    (user : document.get "user_id" ≠ .null)
    (lacking : (document.get "arena_id").isTruthy = false)
    (stored : round ∈ store.rounds.documents)
    (named : document.get "round_id" = round.get "_id")
    (identifier : round.get "_id" = .text roundId)
    (arena : round.get "arena_id" = .text arenaId) (nonempty : arenaId ≠ "") :
    ∃ rounds eliminations tally, ResolvedRound.readAll.result store = .ok rounds ∧
      Elimination.readAll.result store = .ok eliminations ∧
      (Tally.collect rounds eliminations).find? (document.get "user_id").toText = some tally ∧
      arenaId ∈ tally.lost.toList ∧ arenaId ∉ (tally.played.diff tally.lost).toList ∧
      ∀ line ∈ ranked, line.id = (document.get "user_id").toText →
        line.arenasWon = (tally.played.diff tally.lost).size := by
  have attributed : Elimination.arenaIn? store.rounds.documents document = some arenaId :=
    Elimination.arenaIn?_of_text distinct lacking (named.trans identifier) stored identifier arena
      nonempty
  have counted : ⟨(document.get "user_id").toText, Elimination.roundId? document, arenaId⟩ ∈
      eliminationsIn store :=
    mem_eliminationsIn.2 ⟨document, eliminated, user, arenaId, attributed, rfl⟩
  obtain ⟨tally, found⟩ : ∃ tally, (talliesIn store).find? _ = some tally :=
    Tally.exists_tally_of_elimination counted
  have lost : arenaId ∈ tally.lost.toList :=
    (Tally.mem_lost_iff found).2 ⟨_, counted, rfl, rfl⟩
  obtain rfl := eq_of_result_readRanked built
  obtain ⟨rounds, eliminations, -, given, given', -⟩ := result_readRanked_eq_ok.1 built
  obtain ⟨-, -, rfl⟩ := ResolvedRound.result_readAll_eq_ok.1 given
  obtain rfl := Elimination.eq_of_result_readAll given'
  refine ⟨_, _, tally, given, given', found, lost, fun won => ((Names.mem_diff ..).1 won).2 lost,
    fun line member same => ?_⟩
  exact arenasWon_of_mem_rankingIn member (by rw [same]; exact found)

/-- A player chose in a round, and was eliminated in it; the document of the elimination names the
round only. -/
def eliminatedStore (roundId : Value) : Store where
  rounds := ⟨[[("_id", roundId), ("state", .text "RESOLVED"), ("arena_id", .text "a"),
    ("metadata", .record [("playerChoices", .list [.record [("userId", .text "u")]])])]], none⟩
  eliminations := ⟨[[("_id", .text "l"), ("user_id", .text "u"), ("round_id", roundId)]], none⟩
  users := ⟨[[("_id", .text "u"), ("wallet_address", .text "0x1")]], none⟩
  arenas := ⟨[], none⟩

/-- With a text for the round the player has not won. -/
theorem not_won_of_eliminated_text :
    ∃ rounds eliminations tally,
      ResolvedRound.readAll.result (eliminatedStore (.text "r")) = .ok rounds ∧
      Elimination.readAll.result (eliminatedStore (.text "r")) = .ok eliminations ∧
      (Tally.collect rounds eliminations).find? "u" = some tally ∧ "a" ∈ tally.lost.toList ∧
      "a" ∉ (tally.played.diff tally.lost).toList ∧
      (0 : Int) = (tally.played.diff tally.lost).size := by
  have built : readRanked.result (eliminatedStore (.text "r")) =
      .ok [⟨"u", 1, "0x1", 0, 0, 0⟩] := by
    decide +kernel
  obtain ⟨rounds, eliminations, tally, given, given', found, lost, notWon, shown⟩ :=
    not_won_of_eliminated built (List.nodup_singleton _) (.head _) (by
      simp [Record.get, Record.get?, Table.lookupRows]) rfl (.head _) rfl rfl rfl (by decide)
  exact ⟨rounds, eliminations, tally, given, given', found, lost, notWon, shown _ (.head _) rfl⟩

/-- With an object identifier for the round the elimination is lost, and the player is shown as the
winner of the arena. -/
theorem won_of_objectId :
    let store := eliminatedStore (.objectId "656e6f7567686f6964313131")
    (∀ shelf, store.DistinctIds shelf) ∧
      (∃ document ∈ store.eliminations.documents, ∃ round ∈ store.rounds.documents,
        document.get "user_id" = .text "u" ∧ document.get "arena_id" = .null ∧
          document.get "round_id" = round.get "_id" ∧ round.get "arena_id" = .text "a") ∧
      readRanked.result store = .ok [⟨"u", 1, "0x1", 0, 1, 1⟩] ∧
      ¬ ∃ rounds eliminations tally, ResolvedRound.readAll.result store = .ok rounds ∧
        Elimination.readAll.result store = .ok eliminations ∧
        (Tally.collect rounds eliminations).find? "u" = some tally ∧
        "a" ∈ tally.lost.toList := by
  intro store
  refine ⟨fun shelf => ?_, ⟨_, .head _, _, .head _, rfl, rfl, rfl, rfl⟩,
    by decide +kernel, ?_⟩
  · cases shelf with
    | arenas => exact List.nodup_nil
    | _ => exact List.nodup_singleton _
  · rintro ⟨rounds, eliminations, tally, given, given', found, lost⟩
    obtain ⟨elimination, counted, -⟩ := (Tally.mem_lost_iff found).1 lost
    obtain rfl := Elimination.eq_of_result_readAll given'
    obtain ⟨document, stored, -, arenaId, attributed, -⟩ := mem_eliminationsIn.1 counted
    have distinct : (store.rounds.documents.map (·.get "_id")).Nodup := List.nodup_singleton _
    have lacking : (document.get "arena_id").isTruthy = false := by
      rw [List.mem_singleton.1 stored]
      rfl
    have named : document.get "round_id" = .objectId "656e6f7567686f6964313131" := by
      rw [List.mem_singleton.1 stored]
      rfl
    have dropped := Elimination.arenaIn?_of_objectId distinct lacking named fun round member => by
      rw [List.mem_singleton.1 member]
      simp [Record.get, Record.get?, Table.lookupRows]
    exact Option.some_ne_none _ (attributed.symm.trans dropped)

end Leaderboard

end ArenaStandings
