import ArenaStandings.Leaderboard.Tally
import Mathlib.Data.List.Basic

/-!
# What a tally holds

The rounds and the eliminations are a row of marks, each for one player: a choice, a payout or an
elimination. A player's tally is made by this player's marks alone, in their order
(`Tally.find?_collect`), and each of its parts can be read off them (`Tally.totalYield_addAll`,
`Tally.mem_played_addAll` and so on). Only the sum of the payouts depends on the order of the marks.
-/

namespace ArenaStandings

namespace ResolvedRound

/-- The choices that the bag of a round holds. -/
def choices (round : ResolvedRound) : List Choice := (Metadata.ofValue round.metadata).choices

/-- The payouts that the bag of a round holds. -/
def payouts (round : ResolvedRound) : List Payout := (Metadata.ofValue round.metadata).payouts

end ResolvedRound

namespace Tally

/-- Something that counts for a player. -/
inductive Mark
  /-- A choice in a round of an arena. -/
  | choice (arenaId : String)
  | payout (amount : Float)
  /-- An elimination from an arena. -/
  | elimination (arenaId : String)

/-- Count a mark. -/
def add (tally : Tally) : Mark → Tally
  | .choice arenaId => tally.addChoice arenaId
  | .payout amount => tally.addPayout amount
  | .elimination arenaId => tally.addElimination arenaId

def addAll (tally : Tally) (marks : List Mark) : Tally := marks.foldl add tally

@[simp] theorem addAll_nil (tally : Tally) : tally.addAll [] = tally := rfl

theorem addAll_cons (tally : Tally) (mark : Mark) (marks : List Mark) :
    tally.addAll (mark :: marks) = (tally.add mark).addAll marks := rfl

/-- The marks of a round with their players: first the choices, then the payouts. -/
def marksOfRound (round : ResolvedRound) : List (String × Mark) :=
  (Metadata.ofValue round.metadata).choices.map (fun choice =>
    (choice.userId, .choice round.arenaId)) ++
  (Metadata.ofValue round.metadata).payouts.map fun payout => (payout.userId, .payout payout.amount)

def markOfElimination (elimination : Elimination) : String × Mark :=
  (elimination.userId, .elimination elimination.arenaId)

/-- The marks that rounds and eliminations give, in the order in which they are counted. -/
def marks (rounds : List ResolvedRound) (eliminations : List Elimination) : List (String × Mark) :=
  rounds.flatMap marksOfRound ++ eliminations.map markOfElimination

/-- The marks of one player. -/
def marksOf (userId : String) (marks : List (String × Mark)) : List Mark :=
  (marks.filter fun mark => mark.1 = userId).map Prod.snd

def All.addMark (all : All) (mark : String × Mark) : All := all.update mark.1 (·.add mark.2)

theorem All.addRound_eq (all : All) (round : ResolvedRound) :
    all.addRound round = (marksOfRound round).foldl All.addMark all := by
  rw [All.addRound, marksOfRound, List.foldl_append, List.foldl_map, List.foldl_map]
  rfl

/-- Collecting is counting the marks one after the other. -/
theorem collect_eq (rounds : List ResolvedRound) (eliminations : List Elimination) :
    collect rounds eliminations = (marks rounds eliminations).foldl All.addMark .empty := by
  have counted : ∀ all : All, rounds.foldl All.addRound all =
      (rounds.flatMap marksOfRound).foldl All.addMark all := by
    intro all
    rw [List.foldl_flatMap]
    congr 1
    funext all round
    exact All.addRound_eq all round
  rw [collect, counted, marks, List.foldl_append, List.foldl_map]
  rfl

theorem find?_addMark (all : All) (mark : String × Mark) (userId : String) :
    (all.addMark mark).find? userId =
      if userId = mark.1 then some (((all.find? userId).getD empty).add mark.2)
      else all.find? userId := by
  rw [All.addMark, All.update, Table.alter, Table.find?_insert]
  split
  · rename_i same
    rw [same]
  · rfl

theorem marksOf_cons (userId : String) (mark : String × Mark) (marks : List (String × Mark)) :
    marksOf userId (mark :: marks) =
      if mark.1 = userId then mark.2 :: marksOf userId marks else marksOf userId marks := by
  unfold marksOf
  by_cases same : mark.1 = userId <;> simp [same]

/-- After counting, a player has a tally if there was one or a mark is the player's, and the
player's marks are counted in it. -/
theorem find?_foldl_addMark (marks : List (String × Mark)) (all : All) (userId : String) :
    (marks.foldl All.addMark all).find? userId =
      if marksOf userId marks = [] then all.find? userId
      else some (((all.find? userId).getD empty).addAll (marksOf userId marks)) := by
  induction marks generalizing all with
  | nil => rfl
  | cons mark marks ih =>
    rw [List.foldl_cons, ih, find?_addMark, marksOf_cons]
    by_cases same : mark.1 = userId
    · rw [if_pos same.symm, if_pos same, if_neg (List.cons_ne_nil _ _), Option.getD_some]
      split
      · rename_i none
        rw [none]
        rfl
      · rfl
    · have differ : ¬ userId = mark.1 := fun equal => same equal.symm
      rw [if_neg differ, if_neg same]

/-- **A player's tally.** Exactly the players with a mark have a tally, and it counts their
marks. -/
theorem find?_collect (rounds : List ResolvedRound) (eliminations : List Elimination)
    (userId : String) :
    (collect rounds eliminations).find? userId =
      if marksOf userId (marks rounds eliminations) = [] then none
      else some (empty.addAll (marksOf userId (marks rounds eliminations))) := by
  rw [collect_eq, find?_foldl_addMark]
  rfl

theorem mem_marksOf {userId : String} {mark : Mark} {marks : List (String × Mark)} :
    mark ∈ marksOf userId marks ↔ (userId, mark) ∈ marks := by
  simp [marksOf]

/-- A tally that is found counts the player's marks. -/
theorem eq_addAll_of_find? {rounds : List ResolvedRound} {eliminations : List Elimination}
    {userId : String} {tally : Tally}
    (found : (collect rounds eliminations).find? userId = some tally) :
    tally = empty.addAll (marksOf userId (marks rounds eliminations)) := by
  rw [find?_collect] at found
  split at found
  · cases found
  · exact (Option.some.inj found).symm

/-- The players with a tally are those with a mark. -/
theorem exists_find?_collect_iff {rounds : List ResolvedRound} {eliminations : List Elimination}
    {userId : String} :
    (∃ tally, (collect rounds eliminations).find? userId = some tally) ↔
      ∃ mark, (userId, mark) ∈ marks rounds eliminations := by
  simp only [find?_collect, ← mem_marksOf]
  split
  · rename_i none
    simp [none]
  · rename_i some
    simpa using List.exists_mem_of_ne_nil _ some

/-- Where a player's marks come from. -/
theorem mem_marks {rounds : List ResolvedRound} {eliminations : List Elimination} {userId : String}
    {mark : Mark} :
    (userId, mark) ∈ marks rounds eliminations ↔
      (∃ round ∈ rounds, ∃ choice ∈ (Metadata.ofValue round.metadata).choices,
        choice.userId = userId ∧ .choice round.arenaId = mark) ∨
      (∃ round ∈ rounds, ∃ payout ∈ (Metadata.ofValue round.metadata).payouts,
        payout.userId = userId ∧ .payout payout.amount = mark) ∨
      ∃ elimination ∈ eliminations,
        elimination.userId = userId ∧ .elimination elimination.arenaId = mark := by
  simp only [marks, marksOfRound, markOfElimination, List.mem_append, List.mem_flatMap,
    List.mem_map, Prod.mk.injEq, and_or_left, exists_or, or_assoc]

/-! ## The parts of a tally -/

namespace Mark

def amount? : Mark → Option Float
  | payout amount => some amount
  | _ => none

def isChoice : Mark → Bool
  | choice _ => true
  | _ => false

def isElimination : Mark → Bool
  | elimination _ => true
  | _ => false

end Mark

/-- The payouts are added up in the order of the marks. -/
theorem totalYield_addAll (tally : Tally) (marks : List Mark) :
    (tally.addAll marks).totalYield =
      (marks.filterMap Mark.amount?).foldl (· + ·) tally.totalYield := by
  induction marks generalizing tally with
  | nil => rfl
  | cons mark marks ih =>
    rw [addAll_cons, ih]
    cases mark <;> rfl

theorem mem_played_addAll {tally : Tally} {marks : List Mark} {arenaId : String} :
    arenaId ∈ (tally.addAll marks).played.toList ↔
      arenaId ∈ tally.played.toList ∨
        .choice arenaId ∈ marks ∨ .elimination arenaId ∈ marks := by
  induction marks generalizing tally with
  | nil => simp
  | cons mark marks ih =>
    rw [addAll_cons, ih]
    cases mark with
    | choice other => simp [add, addChoice, Names.mem_insert, or_assoc, or_left_comm]
    | payout amount => simp [add, addPayout]
    | elimination other => simp [add, addElimination, Names.mem_insert, or_assoc, or_left_comm]

theorem mem_lost_addAll {tally : Tally} {marks : List Mark} {arenaId : String} :
    arenaId ∈ (tally.addAll marks).lost.toList ↔
      arenaId ∈ tally.lost.toList ∨ .elimination arenaId ∈ marks := by
  induction marks generalizing tally with
  | nil => simp
  | cons mark marks ih =>
    rw [addAll_cons, ih]
    cases mark with
    | choice other => simp [add, addChoice]
    | payout amount => simp [add, addPayout]
    | elimination other => simp [add, addElimination, Names.mem_insert, or_assoc, or_left_comm]

theorem roundCount_addAll (tally : Tally) (marks : List Mark) :
    (tally.addAll marks).roundCount = tally.roundCount + marks.countP Mark.isChoice := by
  induction marks generalizing tally with
  | nil => simp
  | cons mark marks ih =>
    rw [addAll_cons, ih, List.countP_cons]
    cases mark with
    | choice other =>
      simp only [add, addChoice, Mark.isChoice, ↓reduceIte]
      omega
    | payout amount => simp [add, addPayout, Mark.isChoice]
    | elimination other => simp [add, addElimination, Mark.isChoice]

theorem eliminationCount_addAll (tally : Tally) (marks : List Mark) :
    (tally.addAll marks).eliminationCount =
      tally.eliminationCount + marks.countP Mark.isElimination := by
  induction marks generalizing tally with
  | nil => simp
  | cons mark marks ih =>
    rw [addAll_cons, ih, List.countP_cons]
    cases mark with
    | choice other => simp [add, addChoice, Mark.isElimination]
    | payout amount => simp [add, addPayout, Mark.isElimination]
    | elimination other =>
      simp only [add, addElimination, Mark.isElimination, ↓reduceIte]
      omega

/-! ## The amounts of a player -/

/-- What a round pays to a player. -/
theorem amounts_marksOfRound (userId : String) (round : ResolvedRound) :
    (marksOf userId (marksOfRound round)).filterMap Mark.amount? =
      (round.payouts.filter fun payout => payout.userId = userId).map Payout.amount := by
  have unpaid : ∀ choices : List Choice,
      (marksOf userId (choices.map fun choice =>
        (choice.userId, Mark.choice round.arenaId))).filterMap Mark.amount? = [] := by
    refine fun choices => List.filterMap_eq_nil_iff.2 fun mark member => ?_
    obtain ⟨choice, -, made⟩ := List.mem_map.1 (mem_marksOf.1 member)
    cases made
    rfl
  have given : ∀ payouts : List Payout,
      (marksOf userId (payouts.map fun payout =>
        (payout.userId, Mark.payout payout.amount))).filterMap Mark.amount? =
        (payouts.filter fun payout => payout.userId = userId).map Payout.amount := by
    intro payouts
    rw [marksOf, List.filter_map, List.map_map, List.filterMap_map, ← List.filterMap_eq_map]
    rfl
  have split : marksOf userId (marksOfRound round) =
      marksOf userId (round.choices.map fun choice => (choice.userId, .choice round.arenaId)) ++
        marksOf userId
          (round.payouts.map fun payout => (payout.userId, .payout payout.amount)) := by
    rw [marksOf, marksOfRound, List.filter_append, List.map_append]
    rfl
  rw [split, List.filterMap_append, unpaid, given, List.nil_append]

/-- What is paid to a player comes from the rounds alone, in their order and in the order of the
payouts of each. -/
theorem amounts_marks (rounds : List ResolvedRound) (eliminations : List Elimination)
    (userId : String) :
    (marksOf userId (marks rounds eliminations)).filterMap Mark.amount? =
      ((rounds.flatMap ResolvedRound.payouts).filter fun payout => payout.userId = userId).map
        Payout.amount := by
  have unpaid :
      (marksOf userId (eliminations.map markOfElimination)).filterMap Mark.amount? = [] := by
    refine List.filterMap_eq_nil_iff.2 fun mark member => ?_
    obtain ⟨elimination, -, made⟩ := List.mem_map.1 (mem_marksOf.1 member)
    cases made
    rfl
  have split : marksOf userId (marks rounds eliminations) =
      (rounds.flatMap fun round => marksOf userId (marksOfRound round)) ++
        marksOf userId (eliminations.map markOfElimination) := by
    rw [marksOf, marks, List.filter_append, List.map_append, List.filter_flatMap, List.map_flatMap]
    rfl
  rw [split, List.filterMap_append, unpaid, List.append_nil, List.filterMap_flatMap,
    List.filter_flatMap, List.map_flatMap]
  congr 1
  funext round
  exact amounts_marksOfRound userId round

/-! ## The order of the marks -/

/-- Marks in another order that leaves the payouts where they are make a tally with the same sum. -/
theorem totalYield_addAll_congr {marks others : List Mark}
    (paid : marks.filterMap Mark.amount? = others.filterMap Mark.amount?) (tally : Tally) :
    (tally.addAll marks).totalYield = (tally.addAll others).totalYield := by
  rw [totalYield_addAll, totalYield_addAll, paid]

theorem size_diff_congr {names names' others others' : Names}
    (same : ∀ name, name ∈ names.toList ↔ name ∈ names'.toList)
    (same' : ∀ name, name ∈ others.toList ↔ name ∈ others'.toList) :
    (names.diff others).size = (names'.diff others').size := by
  refine Names.size_congr fun name => ?_
  rw [Names.mem_diff, Names.mem_diff, same, same']

/-- The arenas won do not depend on the order of the marks. -/
theorem arenasWon_addAll_perm {marks others : List Mark} (same : marks.Perm others)
    (tally : Tally) : (tally.addAll marks).arenasWon = (tally.addAll others).arenasWon := by
  refine size_diff_congr (fun arenaId => ?_) fun arenaId => ?_
  · rw [mem_played_addAll, mem_played_addAll, same.mem_iff, same.mem_iff]
  · rw [mem_lost_addAll, mem_lost_addAll, same.mem_iff]

theorem survivalStreak_addAll_perm {marks others : List Mark} (same : marks.Perm others)
    (tally : Tally) :
    (tally.addAll marks).survivalStreak = (tally.addAll others).survivalStreak := by
  rw [survivalStreak, survivalStreak, roundCount_addAll, roundCount_addAll,
    eliminationCount_addAll, eliminationCount_addAll, same.countP_eq, same.countP_eq]

end Tally

end ArenaStandings
