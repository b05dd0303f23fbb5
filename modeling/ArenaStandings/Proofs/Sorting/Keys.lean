import Mathlib.Data.List.Nodup
import Mathlib.Data.List.Sort
import Mathlib.Data.String.Basic

/-!
# Sorting by a key

Lists are sorted by comparing keys that are linearly ordered. A comparison that is the one of the
keys on a list sorts it by them (`Sorting.mergeSort_eq_byKey`), and where different elements have
different keys the order in which they came is lost (`Sorting.mergeSort_byKey_eq_of_perm`). What is
sorted by one key is in order of something else exactly if the key does not contradict it
(`Sorting.pairwise_mergeSort_byKey_iff`).
-/

namespace ArenaStandings

namespace Sorting

variable {α κ : Type} [LinearOrder κ] {key : α → κ} {list others : List α}

/-- Is the key of the first at most that of the second? -/
def byKey (key : α → κ) (first second : α) : Bool := key first ≤ key second

theorem byKey_iff {first second : α} :
    byKey key first second = true ↔ key first ≤ key second :=
  decide_eq_true_iff

theorem byKey_trans (first second third : α) (before : byKey key first second = true)
    (after : byKey key second third = true) : byKey key first third = true :=
  byKey_iff.2 ((byKey_iff.1 before).trans (byKey_iff.1 after))

theorem byKey_total (first second : α) :
    (byKey key first second || byKey key second first) = true := by
  rw [Bool.or_eq_true, byKey_iff, byKey_iff]
  exact le_total (key first) (key second)

/-- What compares the elements of a list by their keys sorts it by the keys. -/
theorem mergeSort_eq_byKey {compare : α → α → Bool}
    (compares : ∀ first ∈ list, ∀ second ∈ list,
      compare first second = byKey key first second) :
    list.mergeSort compare = list.mergeSort (byKey key) := by
  -- Nothing is known of the comparison outside the list, so it cannot be replaced by the other one.
  have same := List.map_mergeSort (f := id) compares
  simpa using same

theorem pairwise_mergeSort_byKey (key : α → κ) (list : List α) :
    (list.mergeSort (byKey key)).Pairwise fun first second => key first ≤ key second :=
  (List.pairwise_mergeSort byKey_trans byKey_total list).imp byKey_iff.1

/-- Where elements of one key are related, a list sorted by the key is in order of the relation
exactly when a lower key means to be related. -/
theorem pairwise_mergeSort_byKey_iff {relation : α → α → Prop}
    (level : ∀ first ∈ list, ∀ second ∈ list,
      key first = key second → relation first second) :
    (list.mergeSort (byKey key)).Pairwise relation ↔
      ∀ first ∈ list, ∀ second ∈ list,
        key first < key second → relation first second := by
  have ascending := pairwise_mergeSort_byKey key list
  constructor
  · intro ordered
    let Placed (first second : α) : Prop := key first < key second → relation first second
    have alone : ∀ element ∈ list.mergeSort (byKey key), Placed element element := by
      intro element _ less
      exact (lt_irrefl _ less).elim
    -- Of two elements either may come first, but not the one with the higher key.
    have forwards : (list.mergeSort (byKey key)).Pairwise Placed := by
      apply ordered.imp
      intro first second related _
      exact related
    have backwards : (list.mergeSort (byKey key)).Pairwise (flip Placed) := by
      apply ascending.imp
      intro first second below less
      exact (below.not_gt less).elim
    intro first member second member' less
    exact forwards.forall_of_forall_of_flip alone backwards (List.mem_mergeSort.2 member)
      (List.mem_mergeSort.2 member') less
  · intro related
    refine ascending.imp_of_mem fun {first second} member member' below => ?_
    rcases below.lt_or_eq with less | same
    · exact related first (List.mem_mergeSort.1 member) second (List.mem_mergeSort.1 member') less
    · exact level first (List.mem_mergeSort.1 member) second (List.mem_mergeSort.1 member') same

/-- Elements with different keys come out in one order, however they came. -/
theorem mergeSort_byKey_eq_of_perm (same : list.Perm others)
    (distinct : ∀ first ∈ list, ∀ second ∈ list,
      key first = key second → first = second) :
    list.mergeSort (byKey key) = others.mergeSort (byKey key) := by
  have rearranged : (list.mergeSort (byKey key)).Perm (others.mergeSort (byKey key)) :=
    (List.mergeSort_perm ..).trans (same.trans (List.mergeSort_perm ..).symm)
  refine List.Perm.eq_of_pairwise ?_ (pairwise_mergeSort_byKey key list)
    (pairwise_mergeSort_byKey key others) rearranged
  intro first second member member' before after
  exact distinct first (List.mem_mergeSort.1 member) second
    (same.mem_iff.2 (List.mem_mergeSort.1 member')) (before.antisymm after)

/-- Different texts in ascending order ascend strictly. -/
theorem sortedLT_mergeSort {texts : List String} (distinct : texts.Nodup) :
    (texts.mergeSort (· ≤ ·)).SortedLT :=
  List.sortedLT_iff_nodup_and_sortedLE.2 ⟨distinct.mergeSort, List.sortedLE_mergeSort⟩

end Sorting

end ArenaStandings
