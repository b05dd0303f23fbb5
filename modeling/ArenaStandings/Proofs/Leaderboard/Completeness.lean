import ArenaStandings.Proofs.Leaderboard.Rebuild

/-!
# Who is in the ranking

A user plays in a storage if a resolved round with an arena mentions it, in a choice or in a payout,
or if an elimination to which an arena can be attributed is of it (`Leaderboard.Plays`). These are
the users with a tally (`Leaderboard.exists_tally_iff`), and those of them whose document shows a
wallet are the ones in the ranking, each once (`Leaderboard.ranking_complete`).
-/

namespace ArenaStandings

/-- A bag mentions a user: its choices, or the payouts of its resolution, are a list with a record
in it that has this text as its user. -/
inductive Metadata.Mentions (userId : String) : Value → Prop
  | choice {fields entry : Record} {items : List Value}
    (choices : fields.get "playerChoices" = .list items) (member : .record entry ∈ items)
    (user : entry.get "userId" = .text userId) : Mentions userId (.record fields)
  | payout {fields resolution entry : Record} {items : List Value}
    (resolved : fields.get "resolution" = .record resolution)
    (payouts : resolution.get "payouts" = .list items) (member : .record entry ∈ items)
    (user : entry.get "userId" = .text userId) : Mentions userId (.record fields)

/-- Whatever is made of entries, it is of the users whom records among them name. -/
theorem Metadata.exists_entry_iff {α : Type} {make : Record → String → α}
    {user : α → String} (keeps : ∀ fields userId, user (make fields userId) = userId)
    {items : List Value} {userId : String} :
    (∃ made ∈ items.filterMap (entryOf? make), user made = userId) ↔
      ∃ entry : Record, .record entry ∈ items ∧ entry.get "userId" = .text userId := by
  simp only [List.mem_filterMap, entryOf?_eq_some_iff]
  constructor
  · rintro ⟨_, ⟨_, member, entry, _, rfl, named, rfl⟩, rfl⟩
    exact ⟨entry, member, by rw [named, keeps]⟩
  · rintro ⟨entry, member, named⟩
    exact ⟨_, ⟨_, member, entry, userId, rfl, named, rfl⟩, keeps entry userId⟩

/-- The users that a bag mentions are those of the choices and the payouts that are read from it. -/
theorem Metadata.mentions_iff {metadata : Value} {userId : String} :
    Mentions userId metadata ↔
      (∃ choice ∈ (ofValue metadata).choices, choice.userId = userId) ∨
        ∃ payout ∈ (ofValue metadata).payouts, payout.userId = userId := by
  cases metadata with
  | record fields =>
    rw [ofValue]
    dsimp only
    rw [Choice.ofEntry?_eq, Payout.ofEntry?_eq, exists_entry_iff fun _ _ => rfl,
      exists_entry_iff fun _ _ => rfl]
    constructor
    · rintro (⟨choices, member, user⟩ | ⟨resolved, payouts, member, user⟩)
      · exact .inl ⟨_, Value.mem_items.2 ⟨_, choices, member⟩, user⟩
      · refine .inr ⟨_, ?_, user⟩
        rw [payoutEntries, resolved]
        exact Value.mem_items.2 ⟨_, payouts, member⟩
    · rintro (⟨entry, member, user⟩ | ⟨entry, member, user⟩)
      · obtain ⟨items, choices, listed⟩ := Value.mem_items.1 member
        exact .choice choices listed user
      · unfold payoutEntries at member
        split at member
        · rename_i resolution resolved
          obtain ⟨items, payouts, listed⟩ := Value.mem_items.1 member
          exact .payout resolved payouts listed user
        · cases member
  | _ =>
    constructor
    · rintro ⟨⟩
    · rintro (⟨_, ⟨⟩, _⟩ | ⟨_, ⟨⟩, _⟩)

namespace Leaderboard

/-- A user plays in a storage. -/
inductive Plays (store : Store) (userId : String) : Prop
  /-- A resolved round with an arena mentions the user. -/
  | round {document : Record} (member : document ∈ store.rounds.documents)
    (resolved : document.get "state" = .text resolvedState)
    (arena : document.get "arena_id" ≠ .null)
    (mentioned : Metadata.Mentions userId (document.get "metadata"))
  /-- An elimination of the user can be attributed to an arena. -/
  | elimination {document : Record} {arenaId : String}
    (member : document ∈ store.eliminations.documents) (user : document.get "user_id" ≠ .null)
    (named : (document.get "user_id").toText = userId)
    (attributed : Elimination.arenaIn? store.rounds.documents document = some arenaId)

/-- The users with a tally are those who play. -/
theorem exists_tally_iff {store : Store} {userId : String} :
    (∃ tally, (talliesIn store).find? userId = some tally) ↔ Plays store userId := by
  rw [talliesIn, Tally.exists_find?_collect_iff]
  simp only [Tally.mem_marks, mem_roundsIn, mem_eliminationsIn]
  constructor
  · rintro ⟨mark, ⟨_, ⟨document, member, resolved, arena, rfl⟩, choice, chosen, user, -⟩ |
      ⟨_, ⟨document, member, resolved, arena, rfl⟩, payout, paid, user, -⟩ |
      ⟨_, ⟨document, member, present, arenaId, attributed, rfl⟩, named, -⟩⟩
    · exact .round member resolved arena
        (Metadata.mentions_iff.2 (.inl ⟨choice, chosen, user⟩))
    · exact .round member resolved arena (Metadata.mentions_iff.2 (.inr ⟨payout, paid, user⟩))
    · exact .elimination member present named attributed
  · rintro (⟨member, resolved, arena, mentioned⟩ | ⟨member, present, named, attributed⟩)
    · rcases Metadata.mentions_iff.1 mentioned with
        ⟨choice, chosen, user⟩ | ⟨payout, paid, user⟩
      · exact ⟨_,
          .inl ⟨_, ⟨_, member, resolved, arena, rfl⟩, choice, chosen, user, rfl⟩⟩
      · exact ⟨_,
          .inr (.inl ⟨_, ⟨_, member, resolved, arena, rfl⟩, payout, paid, user, rfl⟩)⟩
    · exact ⟨_, .inr (.inr ⟨_, ⟨_, member, present, _, attributed, rfl⟩, named, rfl⟩)⟩

/-- **The ranking is complete, without repetition, and in order.** A storage that can be read, whose
integers can be written and whose users have different identifiers has a ranking. In it are exactly
the users who play and whose document, with the user as a text for its identifier, has a text as its
wallet; each is there once, with that wallet. Ranks are one, two, three and so on, and whoever comes
before another outranks the other. -/
theorem ranking_complete {store : Store} (readable : store.Readable) (legible : store.Legible)
    (distinct : store.DistinctIds .users) :
    ∃ ranked, readRanked.result store = .ok ranked ∧
      (∀ userId wallet, (∃ line ∈ ranked, line.id = userId ∧ line.wallet = wallet) ↔
        Plays store userId ∧ ∃ user ∈ store.users.documents,
          user.get "_id" = .text userId ∧ user.get "wallet_address" = .text wallet) ∧
      (ranked.map Standing.id).Nodup ∧
      (∀ (index : Nat) line, ranked[index]? = some line → line.rank = index + 1) ∧
      ranked.Pairwise Standing.Outranks := by
  have once : ((standingsIn store).map Standing.id).Nodup := Roster.nodup_ids_join _ _
  refine ⟨rankingIn store, result_readRanked readable legible, fun userId wallet => ?_, ?_,
    fun index line found => Roster.rank_of_getElem?_rank found,
    Roster.pairwise_rank (areComparable_standingsIn store) once⟩
  · have listed := (map_rankingIn_perm store (fun line => (line.id, line.wallet))
      fun _ _ => rfl).mem_iff (a := (userId, wallet))
    simp only [List.mem_map, Prod.mk.injEq] at listed
    rw [listed, ← exists_tally_iff]
    constructor
    · rintro ⟨line, member, rfl, rfl⟩
      obtain ⟨userId, tally, wallet, found, shown, rfl⟩ := (mem_standingsIn distinct).1 member
      exact ⟨⟨tally, found⟩, shown⟩
    · rintro ⟨⟨tally, found⟩, shown⟩
      have listed := (mem_standingsIn distinct).2 ⟨userId, tally, wallet, found, shown, rfl⟩
      exact ⟨_, listed, rfl, rfl⟩
  · exact (map_rankingIn_perm store Standing.id fun _ _ => rfl).nodup_iff.2 once

/-- Three players of one round, level with each other, of whom one has no wallet. -/
def levelStore : Store where
  rounds := ⟨[[("_id", .text "r"), ("state", .text "RESOLVED"), ("arena_id", .text "a"),
    ("metadata", .record [("playerChoices", .list [.record [("userId", .text "v")],
      .record [("userId", .text "w")], .null, .record [("userId", .text "u")]])])]], none⟩
  eliminations := ⟨[], none⟩
  users := ⟨[[("_id", .text "v"), ("wallet_address", .text "0x2")], [("_id", .text "w")],
    [("_id", .text "u"), ("wallet_address", .text "0x1")]], none⟩
  arenas := ⟨[], none⟩

/-- Of the three, the two with a wallet are ranked. -/
theorem ranking_complete_level :
    ∃ ranked, readRanked.result levelStore = .ok ranked ∧
      (∃ line ∈ ranked, line.id = "u" ∧ line.wallet = "0x1") ∧
      (∃ line ∈ ranked, line.id = "v" ∧ line.wallet = "0x2") ∧
      (∀ wallet, ¬ ∃ line ∈ ranked, line.id = "w" ∧ line.wallet = wallet) ∧
      (ranked.map Standing.id).Nodup ∧ ranked.Pairwise Standing.Outranks := by
  have distinct : levelStore.DistinctIds .users := by
    simp [Store.DistinctIds, Store.get, levelStore, Record.get, Record.get?, Table.lookupRows]
  obtain ⟨ranked, given, listed, once, -, ordered⟩ :=
    ranking_complete (by decide) (by decide +kernel) distinct
  have plays : ∀ userId ∈ ["v", "u"], Plays levelStore userId := by
    refine fun userId named => .round (.head _) rfl
      (by simp [Record.get, Record.get?, Table.lookupRows]) ?_
    rcases named with _ | ⟨_, _ | ⟨_, ⟨⟩⟩⟩
    · exact .choice rfl (.head _) rfl
    · exact .choice rfl (.tail _ (.tail _ (.tail _ (.head _)))) rfl
  have last := (listed _ _).2
    ⟨plays _ (by decide), _, .tail _ (.tail _ (.head _)), rfl, rfl⟩
  have head := (listed _ _).2 ⟨plays _ (by decide), _, .head _, rfl, rfl⟩
  refine ⟨ranked, given, last, head, fun wallet line => ?_, once, ordered⟩
  obtain ⟨-, user, stored, named, shown⟩ := (listed _ _).1 line
  simp only [levelStore, List.mem_cons, List.not_mem_nil, or_false] at stored
  rcases stored with rfl | rfl | rfl
  · simp [Record.get, Record.get?, Table.lookupRows] at named
  · simp [Record.get, Record.get?, Table.lookupRows] at shown
  · simp [Record.get, Record.get?, Table.lookupRows] at named

end Leaderboard

end ArenaStandings
