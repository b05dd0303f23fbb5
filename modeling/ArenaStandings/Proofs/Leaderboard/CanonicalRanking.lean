import ArenaStandings.Proofs.Leaderboard.Comparable

/-!
# The ranking is a canonical form

What a ranking of some standings is can be said without sorting: it holds the same standings but for
their ranks, nobody in it comes after anyone whom it outranks, those who are level keep the order in
which they came, and the ranks are one, two, three and so on (`Roster.IsRankingOf`). Of standings
with numbers for what was paid there is exactly one (`Roster.IsRankingOf.eq`), and it is the one
that ranking gives. So ranking again changes nothing, and if no two are level the order in which
they came is lost (`Roster.rank_canonical`).
-/

namespace ArenaStandings

instance (first second : Standing) : Decidable (first.Level second) :=
  inferInstanceAs (Decidable (_ ∧ _ ∧ _))

instance (first second : Standing) : Decidable (first.Outranks second) :=
  inferInstanceAs (Decidable (_ ∨ _ ∧ (_ ∨ _ ∧ _)))

section Keys

variable {α κ : Type} [LinearOrder κ] {key : α → κ} {first second : List α}

theorem mem_iff_of_filter_key_eq
    (same : ∀ place, first.filter (fun a => place = key a) = second.filter fun a => place = key a)
    (a : α) : a ∈ first ↔ a ∈ second := by
  have found : a ∈ first.filter (fun b => key a = key b) ↔
      a ∈ second.filter (fun b => key a = key b) := by rw [same]
  simpa using found

/-- Of lists that are sorted by a key and in which the elements of each key are the same, in the
same order, there is only one. -/
theorem eq_of_filter_key_eq (sorted : first.Pairwise fun a b => key a ≤ key b)
    (sorted' : second.Pairwise fun a b => key a ≤ key b)
    (same : ∀ place,
      first.filter (fun a => place = key a) = second.filter fun a => place = key a) :
    first = second := by
  have mem_iff := mem_iff_of_filter_key_eq same
  induction first generalizing second with
  | nil => exact (List.eq_nil_iff_forall_not_mem.2 fun a member =>
      List.not_mem_nil ((mem_iff a).2 member)).symm
  | cons a first ih =>
    cases second with
    | nil => cases (mem_iff a).1 List.mem_cons_self
    | cons b second =>
      obtain ⟨lowest, sorted⟩ := List.pairwise_cons.1 sorted
      obtain ⟨lowest', sorted'⟩ := List.pairwise_cons.1 sorted'
      -- each head is in the other list, so that neither has the lower key
      have level : key a = key b := by
        apply le_antisymm
        · rcases List.mem_cons.1 ((mem_iff b).2 List.mem_cons_self) with rfl | member
          · exact le_rfl
          · exact lowest b member
        · rcases List.mem_cons.1 ((mem_iff a).1 List.mem_cons_self) with rfl | member
          · exact le_rfl
          · exact lowest' a member
      have heads : a = b := by
        have given := same (key a)
        rw [List.filter_cons_of_pos (by simp), List.filter_cons_of_pos (by simp [level])] at given
        exact (List.cons.inj given).1
      have rest : ∀ place, first.filter (fun c => place = key c) =
          second.filter fun c => place = key c := by
        intro place
        have given := same place
        rw [← heads] at given
        by_cases placed : place = key a
        · rw [List.filter_cons_of_pos (by simp [placed]),
            List.filter_cons_of_pos (by simp [placed])] at given
          exact (List.cons.inj given).2
        · rwa [List.filter_cons_of_neg (by simp [placed]),
            List.filter_cons_of_neg (by simp [placed])] at given
      rw [ih sorted sorted' rest (mem_iff_of_filter_key_eq rest), heads]

end Keys

namespace Standing

/-- The first of two keys is not above the second when the first standing outranks the second or is
level with it. -/
theorem key_le_iff {first second : Standing} (number : first.totalYield.isNaN = false)
    (number' : second.totalYield.isNaN = false) :
    first.key ≤ second.key ↔ first.Outranks second ∨ first.Level second := by
  rw [le_iff_lt_or_eq, outranks_iff number number', level_iff number number']

/-- A standing is what is left without its rank, and the rank. -/
theorem injective_unranked_rank :
    Function.Injective fun standing : Standing => (standing.unranked, standing.rank) := by
  intro first second same
  obtain ⟨alike, rank⟩ := Prod.mk.inj same
  cases first
  cases second
  cases alike
  cases rank
  rfl

end Standing

namespace Roster

/-- A ranking of some standings. -/
structure IsRankingOf (ranked standings : List Standing) : Prop where
  /-- Nobody is lost or added, and only ranks are changed. -/
  perm : (ranked.map Standing.unranked).Perm (standings.map Standing.unranked)
  sorted : ranked.Pairwise fun first second => first.Outranks second ∨ first.Level second
  /-- Those who are level with a player are in the order in which they came. -/
  stable : ∀ line ∈ standings,
    (ranked.map Standing.unranked).filter (fun standing => line.Level standing) =
      (standings.map Standing.unranked).filter fun standing => line.Level standing
  ranks : ranked.map Standing.rank =
    (List.range standings.length).map fun index : Nat => (index : Int) + 1

/-- Those who are level with a standing are those who have its key. -/
theorem filter_level {line : Standing} {standings : List Standing}
    (number : line.totalYield.isNaN = false)
    (numbers : ∀ standing ∈ standings, standing.totalYield.isNaN = false) :
    (standings.map Standing.unranked).filter (fun standing => line.Level standing) =
      (standings.map Standing.unranked).filter fun standing => line.key = standing.key := by
  refine List.filter_congr fun standing member => decide_eq_decide.2 ?_
  obtain ⟨before, stored, rfl⟩ := List.mem_map.1 member
  exact Standing.level_iff number (numbers before stored)

namespace IsRankingOf

variable {ranked other standings : List Standing}

/-- What is ranked has numbers if what comes in has. -/
theorem isNaN (ranking : IsRankingOf ranked standings)
    (number : ∀ standing ∈ standings, standing.totalYield.isNaN = false) :
    ∀ standing ∈ ranked, standing.totalYield.isNaN = false := by
  intro standing member
  obtain ⟨before, stored, same⟩ :=
    List.mem_map.1 (ranking.perm.mem_iff.1 (List.mem_map_of_mem member))
  change standing.unranked.totalYield.isNaN = false
  rw [← same]
  exact number before stored

/-- In a ranking the keys ascend. -/
theorem pairwise_key (ranking : IsRankingOf ranked standings)
    (number : ∀ standing ∈ standings, standing.totalYield.isNaN = false) :
    (ranked.map Standing.unranked).Pairwise fun first second => first.key ≤ second.key := by
  have number' := ranking.isNaN number
  apply List.pairwise_map.2
  refine ranking.sorted.imp_of_mem fun {first second} member member' before => ?_
  exact (Standing.key_le_iff (number' first member) (number' second member')).2 before

/-- The standings of each key are the same in a ranking, in the same order. -/
theorem filter_key (ranking : IsRankingOf ranked standings)
    (number : ∀ standing ∈ standings, standing.totalYield.isNaN = false) (line : Standing)
    (member : line ∈ standings) :
    (ranked.map Standing.unranked).filter (fun standing => line.key = standing.key) =
      (standings.map Standing.unranked).filter fun standing => line.key = standing.key := by
  have level := ranking.stable line member
  rwa [filter_level (number line member) (ranking.isNaN number),
    filter_level (number line member) number] at level

/-- There is only one ranking of some standings. -/
theorem eq (ranking : IsRankingOf ranked standings) (ranking' : IsRankingOf other standings)
    (number : ∀ standing ∈ standings, standing.totalYield.isNaN = false) : ranked = other := by
  have unranked : ranked.map Standing.unranked = other.map Standing.unranked := by
    refine eq_of_filter_key_eq (ranking.pairwise_key number) (ranking'.pairwise_key number) ?_
    intro place
    by_cases taken : ∃ line ∈ standings, line.key = place
    · obtain ⟨line, member, rfl⟩ := taken
      rw [ranking.filter_key number line member, ranking'.filter_key number line member]
    · have absent : ∀ list : List Standing,
          (list.map Standing.unranked).Perm (standings.map Standing.unranked) →
            (list.map Standing.unranked).filter (fun standing => place = standing.key) = [] := by
        refine fun list same => List.filter_eq_nil_iff.2 fun standing member placed => taken ?_
        obtain ⟨line, stored, rfl⟩ := List.mem_map.1 (same.mem_iff.1 member)
        exact ⟨line, stored, (of_decide_eq_true placed).symm⟩
      rw [absent ranked ranking.perm, absent other ranking'.perm]
  apply List.map_injective_iff.2 Standing.injective_unranked_rank
  rw [← List.zip_map', ← List.zip_map', unranked, ranking.ranks, ranking'.ranks]

/-- A ranking is a ranking of itself. -/
theorem self (ranking : IsRankingOf ranked standings) : IsRankingOf ranked ranked := by
  have length : ranked.length = standings.length := by simpa using ranking.perm.length_eq
  exact ⟨.rfl, ranking.sorted, fun _ _ => rfl, by rw [ranking.ranks, length]⟩

end IsRankingOf

/-- Ranking gives a ranking. -/
theorem isRankingOf_rank {standings : List Standing}
    (number : ∀ standing ∈ standings, standing.totalYield.isNaN = false) :
    IsRankingOf (rank standings) standings := by
  have comparable := areComparable_iff.2 number
  have unranked : (rank standings).map Standing.unranked =
      (inOrder standings).map Standing.unranked := map_number Standing.unranked (fun _ _ => rfl) 1 _
  have same := perm_inOrder comparable
  have number' : ∀ standing ∈ inOrder standings, standing.totalYield.isNaN = false :=
    fun standing member => number standing (same.mem_iff.1 member)
  constructor
  case perm =>
    rw [unranked]
    exact same.map _
  case sorted =>
    have ordered : (inOrder standings).Pairwise fun first second =>
        first.Outranks second ∨ first.Level second := by
      refine (pairwise_inOrder comparable).imp_of_mem fun {first second} member member' before => ?_
      exact (Standing.key_le_iff (number' first member) (number' second member')).1 before
    exact pairwise_number ordered (fun _ _ => Iff.rfl) 1
  case stable =>
    intro line member
    have kept := congrArg (List.map Standing.unranked) (filter_key_inOrder comparable line)
    rw [unranked, filter_level (number line member) number',
      filter_level (number line member) number, List.filter_map, List.filter_map]
    exact kept
  case ranks =>
    have length : (inOrder standings).length = standings.length := same.length_eq
    refine List.ext_getElem? fun index => ?_
    rw [rank, List.getElem?_map, getElem?_number, List.getElem?_map]
    by_cases inside : index < standings.length
    · rw [List.getElem?_range inside, List.getElem?_eq_getElem (length ▸ inside)]
      simp [Int.add_comm]
    · rw [List.getElem?_eq_none (by omega), List.getElem?_eq_none (by simpa using inside)]
      rfl

/-- **Ranking is a canonical form.** Let what was paid to each of some standings be a number. Then
the ranking is the one list that is a ranking of them; ranking it again changes nothing; and if the
users are different, ranking gives the same whatever order they come in. -/
theorem rank_canonical {standings : List Standing}
    (number : ∀ standing ∈ standings, standing.totalYield.isNaN = false) :
    IsRankingOf (rank standings) standings ∧
      (∀ ranked, IsRankingOf ranked standings → ranked = rank standings) ∧
      rank (rank standings) = rank standings ∧
      ((standings.map Standing.id).Nodup →
        ∀ others, others.Perm standings → rank others = rank standings) := by
  have ranking := isRankingOf_rank number
  refine ⟨ranking, fun ranked ranking' => ranking'.eq ranking number, ?_, ?_⟩
  · have number' := ranking.isNaN number
    exact (isRankingOf_rank number').eq ranking.self number'
  · intro distinct others same
    exact (rank_eq_of_perm same.symm (areComparable_iff.2 number) distinct).symm

/-- Five users who were ranked before: two are level but for their identifiers, although a zero is
negative, and two were paid infinities. -/
def levelLines : List Standing := [
  ⟨"d", 4, "0x1", -1 / 0, 9, 0⟩, ⟨"b", 2, "0x2", 0, 1, 3⟩, ⟨"a", 9, "0x3", -0.0, 1, 0⟩,
  ⟨"e", 1, "0x4", -0.0, 2, 0⟩, ⟨"c", 0, "0x5", 1 / 0, 0, 0⟩]

/-- A second line of a user, level with the first but for its rank, the sign of the zero and the
wallet. -/
def againLines : List Standing := ⟨"b", 7, "0x6", -0.0, 1, 5⟩ :: levelLines

/-- These lines in their order, with their ranks. The user with two lines has them in the order in
which they came. -/
def rankedAgain : List Standing := [
  ⟨"c", 1, "0x5", 1 / 0, 0, 0⟩, ⟨"e", 2, "0x4", -0.0, 2, 0⟩,
  ⟨"a", 3, "0x3", -0.0, 1, 0⟩, ⟨"b", 4, "0x6", -0.0, 1, 5⟩,
  ⟨"b", 5, "0x2", 0, 1, 3⟩, ⟨"d", 6, "0x1", -1 / 0, 9, 0⟩]

/-- The users are ranked in one way whatever order they come in, and what is a ranking of the lines
is what ranking gives. -/
theorem rank_canonical_level :
    rank levelLines.reverse = rank levelLines ∧ rankedAgain = rank againLines ∧
      rank (rank againLines) = rank againLines := by
  have number : ∀ line ∈ againLines, line.totalYield.isNaN = false := by decide +kernel
  have ranking : IsRankingOf rankedAgain againLines :=
    ⟨by decide +kernel, by decide +kernel, by decide +kernel, by decide +kernel⟩
  obtain ⟨-, -, -, unordered⟩ :=
    rank_canonical fun line member => number line (List.mem_cons_of_mem _ member)
  obtain ⟨-, unique, again, -⟩ := rank_canonical number
  exact ⟨unordered (by decide) _ (List.reverse_perm _), unique rankedAgain ranking, again⟩

end Roster

end ArenaStandings
