import ArenaStandings.Proofs.Arena.Figures

/-!
# The players who are left

The players of an arena are the users who chose in its first round (`ArenaStats.choosers`), once for
each choice, and those who are left are the ones whom no elimination names (`ArenaStats.survivors`).
The figures only count: they take the number of different eliminated users from the number of
choices, and stop at zero. Where everybody chose once and nobody else was eliminated, this is the
number of players who are left (`ArenaStats.survivorCount_of_readLive`).
-/

namespace ArenaStandings

namespace ArenaStats

/-- The users who chose in the first of the rounds, in the order of their choices. -/
def choosers (rounds : List Round) : List String :=
  rounds.head?.elim [] fun round => (Metadata.ofValue round.metadata).choices.map Choice.userId

/-- The users who chose in the first of the rounds and whom no elimination names. -/
def survivors (rounds : List Round) (eliminations : List Elimination) : List String :=
  (choosers rounds).filter fun userId => userId ∉ eliminations.map Elimination.userId

theorem length_choosers (rounds : List Round) : (choosers rounds).length = playersOf rounds := by
  cases rounds with
  | nil => rfl
  | cons round rounds => exact List.length_map _

theorem mem_eliminatedOf {eliminations : List Elimination} {userId : String} :
    userId ∈ (eliminatedOf eliminations).toList ↔
      userId ∈ eliminations.map Elimination.userId :=
  Names.mem_ofList ..

/-- Where everybody chose once and only players were eliminated, a player is either left or one of
the eliminated users. -/
theorem length_survivors_add_size {rounds : List Round} {eliminations : List Elimination}
    (once : (choosers rounds).Nodup)
    (within : ∀ elimination ∈ eliminations, elimination.userId ∈ choosers rounds) :
    (survivors rounds eliminations).length + (eliminatedOf eliminations).size =
      playersOf rounds := by
  let players : Names := ⟨choosers rounds, once⟩
  have players_within : ∀ userId ∈ (eliminatedOf eliminations).toList,
      userId ∈ players.toList := by
    intro userId member
    obtain ⟨elimination, eliminated, rfl⟩ := List.mem_map.1 (mem_eliminatedOf.1 member)
    exact within elimination eliminated
  have left : survivors rounds eliminations =
      (players.diff (eliminatedOf eliminations)).toList := by
    refine List.filter_congr fun userId _ => ?_
    rw [decide_eq_decide, mem_eliminatedOf]
  rw [left, ← length_choosers]
  exact Names.size_diff_add_size players_within

variable {store : Store} {arenaId moment : String} {stats : ArenaStats}

/-- **How many are left.** The survivors in the figures of an arena are never fewer than none and
never more than the players. If each user in the choices of the first round chose once, and every
elimination from the rounds names one of them, the survivors are exactly the players whom none of
these eliminations names. -/
theorem survivorCount_of_readLive (given : (readLive arenaId moment).result store = .ok stats) :
    0 ≤ stats.survivorCount ∧ stats.survivorCount ≤ stats.playerCount ∧
      ∃ rounds eliminations,
        (Round.readOfArena arenaId).result store = .ok rounds ∧
        (Elimination.readOfRounds (rounds.map Round.id)).result store = .ok eliminations ∧
        stats.playerCount = (choosers rounds).length ∧
        ((choosers rounds).Nodup →
          (∀ elimination ∈ eliminations, elimination.userId ∈ choosers rounds) →
          stats.survivorCount = (survivors rounds eliminations).length) := by
  obtain ⟨arena, rounds, eliminations, -, listed, listed', computed⟩ :=
    result_readLive_eq_ok.1 given
  obtain ⟨fee, -, rfl⟩ := Checked.map_eq_valid_iff.1 computed
  refine ⟨Int.natCast_nonneg _, Int.ofNat_le.2 (Nat.sub_le ..), rounds, eliminations, listed,
    listed', congrArg Nat.cast (length_choosers rounds).symm,
    fun once within => congrArg Nat.cast ?_⟩
  rw [← length_survivors_add_size once within, Nat.add_sub_cancel]

/-- An arena in whose first round three players choose, between entries that are no choices. One of
them is eliminated twice, one by a document that leaves its arena to the round, and two more
documents name no user and no arena. -/
def thinned : Store where
  rounds := ⟨[
    [("_id", .text "r"), ("arena_id", .text "a"), ("metadata", .record [("playerChoices",
      .list [.record [("userId", .text "u")], .null, .record [("userId", .text "v")],
        .record [("userId", .int 7)], .record [("userId", .text "w")]])])]], none⟩
  eliminations := ⟨[
    [("user_id", .text "v"), ("round_id", .text "r"), ("arena_id", .text "a")],
    [("user_id", .text "v"), ("round_id", .text "r")],
    [("round_id", .text "r"), ("arena_id", .text "a")],
    [("user_id", .text "u"), ("round_id", .text "s")],
    [("user_id", .text "u"), ("round_id", .text "r")]], none⟩
  users := ⟨[], none⟩
  arenas := ⟨[[("_id", .text "a")]], none⟩

/-- One of the three is left. -/
theorem survivorCount_of_readLive_thinned :
    ∃ stats rounds eliminations,
      (readLive "a" "noon").result thinned = .ok stats ∧ choosers rounds = ["u", "v", "w"] ∧
        eliminations.map Elimination.userId = ["v", "v", "u"] ∧
        stats.survivorCount = (survivors rounds eliminations).length ∧
          stats.survivorCount = 1 := by
  have rounds? : ((Round.readOfArena "a").result thinned).map
      (fun rounds => (choosers rounds, rounds.map Round.id)) = .ok (["u", "v", "w"], ["r"]) := by
    decide +kernel
  have users? : ((Elimination.readOfRounds ["r"]).result thinned).map
      (·.map Elimination.userId) = .ok ["v", "v", "u"] := by
    decide +kernel
  have count? : ((readLive "a" "noon").result thinned).map survivorCount = .ok 1 := by
    decide +kernel
  cases given : (readLive "a" "noon").result thinned with
  | error failure =>
    rw [given] at count?
    cases count?
  | ok stats =>
    obtain ⟨-, -, rounds, eliminations, listed, listed', -, counted⟩ :=
      survivorCount_of_readLive given
    rw [listed] at rounds?
    obtain ⟨chose, named⟩ := Prod.mk.inj (Except.ok.inj rounds?)
    rw [named] at listed'
    rw [listed'] at users?
    rw [given] at count?
    have users : eliminations.map Elimination.userId = ["v", "v", "u"] := Except.ok.inj users?
    have once : (choosers rounds).Nodup := by
      rw [chose]
      decide
    have within : ∀ userId ∈ eliminations.map Elimination.userId,
        userId ∈ choosers rounds := by
      rw [users, chose]
      decide
    exact ⟨stats, rounds, eliminations, rfl, chose, users,
      counted once fun elimination member => within _ (List.mem_map_of_mem member),
      Except.ok.inj count?⟩

end ArenaStats

end ArenaStandings
