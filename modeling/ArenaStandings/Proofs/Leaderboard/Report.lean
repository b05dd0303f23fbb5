import ArenaStandings.Proofs.Leaderboard.Eliminated

/-!
# What the tallies report

Collecting walks through rounds and eliminations and changes the tallies of many players on the way.
What comes out can be said without the walk: who is in the tallies (`Tally.IsNamed`), and what each
part of a player's tally is, by itself, in terms of the choices, the payouts and the eliminations of
this player (`Tally.Reports`). The parts come from the player's marks, and the main statement is
`Tally.collect_reports`.
-/

namespace ArenaStandings

namespace Tally

variable {rounds : List ResolvedRound} {eliminations : List Elimination} {userId : String}

/-- A user is named by a choice or a payout in one of the rounds, or by an elimination. -/
inductive IsNamed (rounds : List ResolvedRound) (eliminations : List Elimination)
    (userId : String) : Prop
  | choice {round : ResolvedRound} {choice : Choice} (member : round ∈ rounds)
    (chosen : choice ∈ round.choices) (user : choice.userId = userId)
  | payout {round : ResolvedRound} {payout : Payout} (member : round ∈ rounds)
    (paid : payout ∈ round.payouts) (user : payout.userId = userId)
  | elimination {elimination : Elimination} (member : elimination ∈ eliminations)
    (user : elimination.userId = userId)

/-- A tally says about a user what the rounds and the eliminations say, part by part. -/
structure Reports (rounds : List ResolvedRound) (eliminations : List Elimination) (userId : String)
    (tally : Tally) : Prop where
  /-- Every choice of the user counts, also a second one in a round. -/
  roundCount : tally.roundCount =
    (rounds.flatMap ResolvedRound.choices).countP fun choice => choice.userId = userId
  eliminationCount : tally.eliminationCount =
    eliminations.countP fun elimination => elimination.userId = userId
  /-- The user took part where there is a choice of the user, and where the user was eliminated. -/
  played : ∀ arenaId, arenaId ∈ tally.played.toList ↔
    (∃ round ∈ rounds, round.arenaId = arenaId ∧
      ∃ choice ∈ round.choices, choice.userId = userId) ∨
    ∃ elimination ∈ eliminations, elimination.userId = userId ∧ elimination.arenaId = arenaId
  lost : ∀ arenaId, arenaId ∈ tally.lost.toList ↔
    ∃ elimination ∈ eliminations, elimination.userId = userId ∧ elimination.arenaId = arenaId
  lost_subset : ∀ arenaId, arenaId ∈ tally.lost.toList → arenaId ∈ tally.played.toList
  /-- Every arena that the user took part in is either won or lost. -/
  arenasWon : tally.arenasWon + tally.lost.size = tally.played.size
  /-- The payouts of the user, and no others, are added to zero, one after the other. -/
  totalYield : tally.totalYield =
    (((rounds.flatMap ResolvedRound.payouts).filter fun payout => payout.userId = userId).map
      Payout.amount).foldl (· + ·) 0
  survivalStreak : tally.survivalStreak =
    max 0 (((rounds.flatMap ResolvedRound.choices).countP
        fun choice => choice.userId = userId : Int) -
      eliminations.countP fun elimination => elimination.userId = userId)

/-! ## The marks of one player -/

/-- Counting a player's marks is counting among all marks those that are the player's. -/
theorem countP_marksOf (kind : Mark → Bool) (marks : List (String × Mark)) :
    (marksOf userId marks).countP kind =
      marks.countP fun mark => kind mark.2 && decide (mark.1 = userId) := by
  rw [marksOf, List.countP_map, List.countP_filter]
  rfl

theorem countP_isChoice_marksOfRound (round : ResolvedRound) :
    (marksOfRound round).countP (fun mark => mark.2.isChoice && decide (mark.1 = userId)) =
      round.choices.countP fun choice => choice.userId = userId := by
  have unpaid : ∀ payouts : List Payout,
      (payouts.map fun payout => (payout.userId, Mark.payout payout.amount)).countP
        (fun mark => mark.2.isChoice && decide (mark.1 = userId)) = 0 := by
    intro payouts
    rw [List.countP_map]
    exact List.countP_eq_zero.2 fun payout _ => Bool.false_ne_true
  rw [marksOfRound, List.countP_append, unpaid, List.countP_map, Nat.add_zero]
  rfl

/-- The choices among a player's marks are the choices of the player in all rounds. -/
theorem countP_isChoice_marks :
    (marksOf userId (marks rounds eliminations)).countP Mark.isChoice =
      (rounds.flatMap ResolvedRound.choices).countP fun choice => choice.userId = userId := by
  have none : (eliminations.map markOfElimination).countP
      (fun mark => mark.2.isChoice && decide (mark.1 = userId)) = 0 := by
    rw [List.countP_map]
    exact List.countP_eq_zero.2 fun elimination _ => Bool.false_ne_true
  rw [countP_marksOf, marks, List.countP_append, none, Nat.add_zero, List.countP_flatMap,
    List.countP_flatMap]
  congr 1
  exact List.map_congr_left fun round _ => countP_isChoice_marksOfRound round

theorem countP_isElimination_marks :
    (marksOf userId (marks rounds eliminations)).countP Mark.isElimination =
      eliminations.countP fun elimination => elimination.userId = userId := by
  have none : (rounds.flatMap marksOfRound).countP
      (fun mark => mark.2.isElimination && decide (mark.1 = userId)) = 0 := by
    refine List.countP_eq_zero.2 fun mark member => ?_
    obtain ⟨round, -, marked⟩ := List.mem_flatMap.1 member
    rcases List.mem_append.1 marked with chosen | paid
    · obtain ⟨choice, -, rfl⟩ := List.mem_map.1 chosen
      exact Bool.false_ne_true
    · obtain ⟨payout, -, rfl⟩ := List.mem_map.1 paid
      exact Bool.false_ne_true
  rw [countP_marksOf, marks, List.countP_append, none, Nat.zero_add, List.countP_map]
  rfl

/-! ## The tallies -/

/-- The players with a tally are those who are named. -/
theorem exists_find?_iff_isNamed :
    (∃ tally, (collect rounds eliminations).find? userId = some tally) ↔
      IsNamed rounds eliminations userId := by
  rw [exists_find?_collect_iff]
  constructor
  · intro marked
    obtain ⟨mark, member⟩ := marked
    rcases mem_marks.1 member with ⟨round, given, choice, chosen, user, -⟩ |
      ⟨round, given, payout, paid, user, -⟩ | ⟨elimination, given, user, -⟩
    · exact .choice given chosen user
    · exact .payout given paid user
    · exact .elimination given user
  · intro named
    cases named with
    | choice given chosen user =>
      exact ⟨_, mem_marks.2 (.inl ⟨_, given, _, chosen, user, rfl⟩)⟩
    | payout given paid user =>
      exact ⟨_, mem_marks.2 (.inr (.inl ⟨_, given, _, paid, user, rfl⟩))⟩
    | elimination given user => exact ⟨_, mem_marks.2 (.inr (.inr ⟨_, given, user, rfl⟩))⟩

/-- The arenas that a player took part in are those of its choices and of its eliminations. -/
theorem mem_played_iff {tally : Tally}
    (found : (collect rounds eliminations).find? userId = some tally) {arenaId : String} :
    arenaId ∈ tally.played.toList ↔
      (∃ round ∈ rounds, round.arenaId = arenaId ∧
        ∃ choice ∈ round.choices, choice.userId = userId) ∨
        ∃ elimination ∈ eliminations,
          elimination.userId = userId ∧ elimination.arenaId = arenaId := by
  rw [eq_addAll_of_find? found, mem_played_addAll, mem_marksOf, mem_marks, mem_marksOf, mem_marks]
  simp only [empty, Names.empty, List.not_mem_nil, false_or, Mark.choice.injEq,
    Mark.elimination.injEq, reduceCtorEq, and_false, exists_false, or_false, ResolvedRound.choices]
  refine or_congr_left (exists_congr fun round => and_congr_right fun _ => ?_)
  constructor
  · rintro ⟨choice, chosen, user, arena⟩
    exact ⟨arena, choice, chosen, user⟩
  · rintro ⟨arena, choice, chosen, user⟩
    exact ⟨choice, chosen, user, arena⟩

/-- A tally that is found reports what the rounds and the eliminations say. -/
theorem reports_of_find? {tally : Tally}
    (found : (collect rounds eliminations).find? userId = some tally) :
    Reports rounds eliminations userId tally := by
  have within : ∀ arenaId, arenaId ∈ tally.lost.toList → arenaId ∈ tally.played.toList :=
    fun arenaId member => (mem_played_iff found).2 (.inr ((mem_lost_iff found).1 member))
  have counted := eq_addAll_of_find? found
  have chosen : tally.roundCount =
      (rounds.flatMap ResolvedRound.choices).countP fun choice => choice.userId = userId := by
    rw [counted, roundCount_addAll, countP_isChoice_marks]
    exact Int.zero_add _
  have eliminated : tally.eliminationCount =
      eliminations.countP fun elimination => elimination.userId = userId := by
    rw [counted, eliminationCount_addAll, countP_isElimination_marks]
    exact Int.zero_add _
  refine ⟨chosen, eliminated, fun arenaId => mem_played_iff found,
    fun arenaId => mem_lost_iff found, within, Names.size_diff_add_size within, ?_, ?_⟩
  · rw [counted, totalYield_addAll, amounts_marks]
    rfl
  · rw [survivalStreak, chosen, eliminated]

/-- **What the tallies say.** Whatever the bags of the rounds hold, the users in the tallies are
exactly those whom a choice, a payout or an elimination names, and the tally of each reports its
choices, its payouts and its eliminations, and nothing of any other user. -/
theorem collect_reports (rounds : List ResolvedRound) (eliminations : List Elimination) :
    (∀ userId,
      userId ∈ (collect rounds eliminations).keys ↔ IsNamed rounds eliminations userId) ∧
    ∀ userId, IsNamed rounds eliminations userId →
      ∃ tally, (collect rounds eliminations).find? userId = some tally ∧
        Reports rounds eliminations userId tally := by
  refine ⟨fun userId => ?_, fun userId named => ?_⟩
  · rw [Table.mem_keys_iff, exists_find?_iff_isNamed]
  · obtain ⟨tally, found⟩ := exists_find?_iff_isNamed.2 named
    exact ⟨tally, found, reports_of_find? found⟩

/-- Three rounds, of which one has no bag that can be used. The first pays so much that one more is
lost in rounding. -/
def mixedRounds : List ResolvedRound := [
  ⟨"a", .record [
    ("playerChoices", .list [.record [("userId", .text "u")], .null,
      .record [("userId", .text "u")]]),
    ("resolution", .record [("payouts", .list [
      .record [("userId", .text "u"), ("amount", .int 10000000000000000)],
      .record [("userId", .text "v"), ("amount", .int 5)]])])]⟩,
  ⟨"b", .text "playerChoices"⟩,
  ⟨"c", .record [("resolution", .record [("payouts", .list [
    .record [("userId", .text "u"), ("amount", .float 1)],
    .record [("userId", .text "u"), ("amount", .float (0 / 0))],
    .record [("userId", .text "u"), ("amount", .int 1)]])])]⟩]

def mixedEliminations : List Elimination := [⟨"w", none, "a"⟩, ⟨"u", none, "d"⟩]

/-- A user with two choices in one round, three payouts and an elimination from elsewhere, and a
user who was only eliminated. -/
theorem collect_reports_mixed :
    (∃ tally, (collect mixedRounds mixedEliminations).find? "u" = some tally ∧
      tally.roundCount = 2 ∧ tally.eliminationCount = 1 ∧ "a" ∈ tally.played.toList ∧
      "c" ∉ tally.played.toList ∧ "d" ∈ tally.lost.toList ∧
      tally.totalYield = 10000000000000000 ∧ tally.survivalStreak = 1) ∧
    (∃ tally, (collect mixedRounds mixedEliminations).find? "w" = some tally ∧
      tally.roundCount = 0 ∧ "a" ∈ tally.played.toList ∧ tally.totalYield = 0) ∧
    "x" ∉ (collect mixedRounds mixedEliminations).keys := by
  obtain ⟨-, reported⟩ := collect_reports mixedRounds mixedEliminations
  have named : IsNamed mixedRounds mixedEliminations "u" :=
    .elimination (.tail _ (.head _)) rfl
  have named' : IsNamed mixedRounds mixedEliminations "w" := .elimination (.head _) rfl
  obtain ⟨tally, found, reports⟩ := reported "u" named
  obtain ⟨tally', found', reports'⟩ := reported "w" named'
  refine ⟨⟨tally, found, reports.roundCount, reports.eliminationCount, ?_, ?_, ?_, ?_,
    reports.survivalStreak⟩, ⟨tally', found', reports'.roundCount, ?_, reports'.totalYield⟩,
    by decide +kernel⟩
  · exact (reports.played "a").2 (.inl ⟨_, .head _, rfl, _, .head _, rfl⟩)
  · rw [reports.played]
    decide +kernel
  · exact (reports.lost "d").2 ⟨_, .tail _ (.head _), rfl, rfl⟩
  · rw [reports.totalYield]
    decide +kernel
  · exact (reports'.played "a").2 (.inr ⟨_, .head _, rfl, rfl⟩)

end Tally

end ArenaStandings
