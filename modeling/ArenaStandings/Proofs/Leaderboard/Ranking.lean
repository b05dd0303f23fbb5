import ArenaStandings.Leaderboard.Roster
import ArenaStandings.Proofs.Decimal.Doubles
import ArenaStandings.Proofs.Sorting.Keys

/-!
# The ranking is the order of its keys

Standings with a number for what was paid are ordered by a key, and the keys are linearly ordered
(`Standing.outranks_iff`). So ranking is sorting by the key: what comes out holds the same players
(`Roster.perm_inOrder`), each above those whom it outranks (`Roster.pairwise_rank`), with the ranks
one by one (`Roster.getElem?_rank`). Standings of different users have different keys, so that the
order in which they came is lost (`Roster.rank_eq_of_perm`).
-/

namespace ArenaStandings

namespace Standing

/-- More was paid to the first player; or as much, and the first won more arenas; or as many, and
the first user comes first by code points. -/
def Outranks (first second : Standing) : Prop :=
  second.totalYield < first.totalYield ∨
    (first.totalYield == second.totalYield) = true ∧
      (second.arenasWon < first.arenasWon ∨
        first.arenasWon = second.arenasWon ∧ first.id < second.id)

/-- A standing without its rank. -/
def unranked (standing : Standing) : Standing := { standing with rank := 0 }

/-- What standings are ordered by. -/
def key (standing : Standing) : (ℤ ×ₗ ℤ ×ₗ ℤ)ᵒᵈ ×ₗ ℤᵒᵈ ×ₗ String :=
  toLex (OrderDual.toDual (Double.place standing.totalYield),
    toLex (OrderDual.toDual standing.arenasWon, standing.id))

theorem key_lt_key {first second : Standing} :
    first.key < second.key ↔
      Double.place second.totalYield < Double.place first.totalYield ∨
        Double.place first.totalYield = Double.place second.totalYield ∧
          (second.arenasWon < first.arenasWon ∨
            first.arenasWon = second.arenasWon ∧ first.id < second.id) := by
  simp only [key, Prod.Lex.toLex_lt_toLex, OrderDual.toDual_lt_toDual,
    OrderDual.toDual.injective.eq_iff]

theorem id_eq_of_key_eq {first second : Standing} (same : first.key = second.key) :
    first.id = second.id :=
  congrArg (fun key => (ofLex (ofLex key).2).2) same

/-- One player outranks another by the keys. -/
theorem outranks_iff {first second : Standing} (comparable : first.totalYield.isNaN = false)
    (comparable' : second.totalYield.isNaN = false) :
    first.Outranks second ↔ first.key < second.key := by
  rw [key_lt_key, Outranks, Double.lt_iff_place_lt comparable' comparable,
    Double.beq_iff_place_eq comparable comparable']

end Standing

namespace Roster

/-- The comparison that sorting makes is that of the keys. -/
theorem precedes_iff {first second : Standing} (comparable : first.totalYield.isNaN = false)
    (comparable' : second.totalYield.isNaN = false) :
    precedes first second = true ↔ first.key < second.key := by
  rw [← Standing.outranks_iff comparable comparable', Standing.Outranks, precedes]
  have apart := Double.lt_iff_place_lt comparable' comparable
  have level := Double.beq_iff_place_eq comparable comparable'
  split
  · rename_i same
    have notLess : ¬ second.totalYield < first.totalYield := by
      rw [apart, level.1 same]
      exact lt_irrefl _
    split
    · rename_i even
      simp [same, notLess, even]
    · rename_i uneven
      simp [same, notLess, uneven]
  · rename_i differ
    simp [differ]

theorem areComparable_iff {standings : List Standing} :
    areComparable standings = true ↔
      ∀ standing ∈ standings, standing.totalYield.isNaN = false := by
  simp only [areComparable, List.all_eq_true, Bool.not_eq_true']

theorem isNaN_of_areComparable {standings : List Standing}
    (comparable : areComparable standings = true) {standing : Standing}
    (member : standing ∈ standings) : standing.totalYield.isNaN = false :=
  areComparable_iff.1 comparable standing member

/-- Comparable standings are sorted by their keys. -/
theorem inOrder_eq_mergeSort {standings : List Standing}
    (comparable : areComparable standings = true) :
    inOrder standings = standings.mergeSort (Sorting.byKey Standing.key) := by
  rw [inOrder, if_pos comparable]
  apply Sorting.mergeSort_eq_byKey
  intro first member second member'
  rw [Bool.eq_iff_iff, Bool.not_eq_true', Bool.eq_false_iff, Ne, Sorting.byKey_iff,
    precedes_iff (isNaN_of_areComparable comparable member')
      (isNaN_of_areComparable comparable member), not_lt]

theorem perm_inOrder {standings : List Standing} (comparable : areComparable standings = true) :
    (inOrder standings).Perm standings := by
  rw [inOrder_eq_mergeSort comparable]
  exact List.mergeSort_perm ..

theorem pairwise_inOrder {standings : List Standing} (comparable : areComparable standings = true) :
    (inOrder standings).Pairwise fun first second => first.key ≤ second.key := by
  rw [inOrder_eq_mergeSort comparable]
  exact Sorting.pairwise_mergeSort_byKey Standing.key standings

/-- Standings with one key stay in the order in which they came. -/
theorem filter_key_inOrder {standings : List Standing} (comparable : areComparable standings = true)
    (line : Standing) :
    (inOrder standings).filter (fun standing => line.key = standing.key) =
      standings.filter fun standing => line.key = standing.key := by
  have alike : (standings.filter fun standing => line.key = standing.key).Pairwise
      fun first second => Sorting.byKey Standing.key first second = true := by
    refine List.pairwise_of_forall_mem_list fun first member second member' => ?_
    have same : line.key = first.key := by simpa using List.of_mem_filter member
    have same' : line.key = second.key := by simpa using List.of_mem_filter member'
    exact Sorting.byKey_iff.2 (same.symm.trans same').le
  have kept := List.sublist_mergeSort Sorting.byKey_trans Sorting.byKey_total alike
    List.filter_sublist
  rw [← inOrder_eq_mergeSort comparable] at kept
  have inside := kept.filter fun standing => decide (line.key = standing.key)
  rw [List.filter_filter] at inside
  simp only [Bool.and_self] at inside
  exact (inside.eq_of_length ((perm_inOrder comparable).filter _).length_eq.symm).symm

/-- Standings of different users come out in one order, however they came. -/
theorem inOrder_eq_of_perm {standings others : List Standing} (same : standings.Perm others)
    (comparable : areComparable standings = true) (distinct : (standings.map Standing.id).Nodup) :
    inOrder standings = inOrder others := by
  have comparable' : areComparable others = true := by
    rw [areComparable, ← same.all_eq]
    exact comparable
  rw [inOrder_eq_mergeSort comparable, inOrder_eq_mergeSort comparable']
  apply Sorting.mergeSort_byKey_eq_of_perm same
  intro first member second member' keys
  exact List.inj_on_of_nodup_map distinct member member' (Standing.id_eq_of_key_eq keys)

/-! ## Ranks -/

theorem getElem?_number (rank : Nat) (standings : List Standing) (index : Nat) :
    (number rank standings)[index]? =
      standings[index]?.map fun standing =>
        { standing with rank := ((rank + index : Nat) : Int) } := by
  induction standings generalizing rank index with
  | nil => rfl
  | cons standing rest ih =>
    cases index with
    | zero => rfl
    | succ index =>
      rw [number, List.getElem?_cons_succ, ih, List.getElem?_cons_succ, Nat.add_right_comm,
        Nat.add_assoc]

/-- Numbering changes nothing but the ranks. -/
theorem map_number {α : Type} (view : Standing → α)
    (blind : ∀ standing (rank : Nat), view { standing with rank := rank } = view standing)
    (rank : Nat) (standings : List Standing) :
    (number rank standings).map view = standings.map view := by
  induction standings generalizing rank with
  | nil => rfl
  | cons standing rest ih => rw [number, List.map_cons, blind, ih, List.map_cons]

/-- What does not look at ranks is kept when they are forgotten and given anew. -/
theorem pairwise_number {relation : Standing → Standing → Prop} {standings : List Standing}
    (ordered : standings.Pairwise relation)
    (blind : ∀ first second, relation first.unranked second.unranked ↔ relation first second)
    (rank : Nat) : (number rank standings).Pairwise relation := by
  have forgotten : (standings.map Standing.unranked).Pairwise relation :=
    List.pairwise_map.2 (ordered.imp (blind _ _).2)
  rw [← map_number Standing.unranked (fun _ _ => rfl) rank] at forgotten
  exact (List.pairwise_map.1 forgotten).imp (blind _ _).1

/-- The ranks are one, two, three and so on. -/
theorem rank_of_getElem?_rank {standings : List Standing} {index : Nat} {standing : Standing}
    (found : (rank standings)[index]? = some standing) : standing.rank = index + 1 := by
  rw [rank, getElem?_number] at found
  obtain ⟨unranked, -, rfl⟩ := Option.map_eq_some_iff.1 found
  dsimp only
  omega

/-- The ranking shows each player with what it had before. -/
theorem map_rank_perm {α : Type} {standings : List Standing}
    (comparable : areComparable standings = true) (view : Standing → α)
    (blind : ∀ standing (rank : Nat), view { standing with rank := rank } = view standing) :
    ((rank standings).map view).Perm (standings.map view) := by
  rw [rank, map_number view blind]
  exact (perm_inOrder comparable).map view

/-- In the ranking of different users, whoever comes before another outranks the other. -/
theorem pairwise_rank {standings : List Standing} (comparable : areComparable standings = true)
    (distinct : (standings.map Standing.id).Nodup) :
    (rank standings).Pairwise Standing.Outranks := by
  have same := perm_inOrder comparable
  have distinct' : (inOrder standings).Pairwise fun first second => first.id ≠ second.id :=
    List.pairwise_map.1 ((same.map Standing.id).nodup_iff.2 distinct)
  have ordered : (inOrder standings).Pairwise Standing.Outranks := by
    refine ((pairwise_inOrder comparable).and distinct').imp_of_mem ?_
    rintro first second member member' ⟨before, differ⟩
    have number := isNaN_of_areComparable comparable (same.mem_iff.1 member)
    have number' := isNaN_of_areComparable comparable (same.mem_iff.1 member')
    exact (Standing.outranks_iff number number').2
      (lt_of_le_of_ne before fun keys => differ (Standing.id_eq_of_key_eq keys))
  exact pairwise_number ordered (fun _ _ => Iff.rfl) 1

/-- The ranking of different users does not depend on the order in which they came. -/
theorem rank_eq_of_perm {standings others : List Standing} (same : standings.Perm others)
    (comparable : areComparable standings = true) (distinct : (standings.map Standing.id).Nodup) :
    rank standings = rank others := by
  rw [rank, rank, inOrder_eq_of_perm same comparable distinct]

end Roster

end ArenaStandings
