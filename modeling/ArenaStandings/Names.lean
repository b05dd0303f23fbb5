/-!
# Sets of names

A `Names` holds texts, each once, in the order in which they came. What counts is membership
(`mem_insert`), the number of names, and the ascending list.
-/

namespace ArenaStandings

/-- A list of texts without repetition. -/
structure Names where
  toList : List String
  nodup : toList.Nodup

namespace Names

def empty : Names := ⟨[], List.nodup_nil⟩

instance : Inhabited Names := ⟨empty⟩

def insert (names : Names) (name : String) : Names :=
  if present : name ∈ names.toList then names
  else ⟨names.toList ++ [name], by
    rw [List.nodup_append]
    refine ⟨names.nodup, by simp, ?_⟩
    intro a member b last
    rw [List.mem_singleton.1 last]
    exact fun same => present (same ▸ member)⟩

def ofList (list : List String) : Names := list.foldl insert empty

/-- The number of names. -/
def size (names : Names) : Nat := names.toList.length

/-- The names that are not in another set. -/
def diff (names others : Names) : Names :=
  ⟨names.toList.filter (· ∉ others.toList), names.nodup.sublist List.filter_sublist⟩

/-- The names in ascending order, by code points. -/
def sorted (names : Names) : List String := names.toList.mergeSort (· ≤ ·)

theorem mem_insert (names : Names) (name other : String) :
    other ∈ (names.insert name).toList ↔ other = name ∨ other ∈ names.toList := by
  by_cases present : name ∈ names.toList
  · simp only [insert, present, ↓reduceDIte]
    exact ⟨Or.inr, fun h => h.elim (fun same => same ▸ present) id⟩
  · simp only [insert, present, ↓reduceDIte, List.mem_append, List.mem_singleton]
    exact or_comm

theorem mem_foldl_insert (list : List String) (names : Names) (name : String) :
    name ∈ (list.foldl insert names).toList ↔ name ∈ names.toList ∨ name ∈ list := by
  induction list generalizing names with
  | nil => simp
  | cons first rest ih => simp only [List.foldl_cons, ih, mem_insert, List.mem_cons, or_assoc,
      or_left_comm]

theorem mem_ofList (list : List String) (name : String) :
    name ∈ (ofList list).toList ↔ name ∈ list := by
  simp [ofList, mem_foldl_insert, empty]

theorem mem_diff (names others : Names) (name : String) :
    name ∈ (names.diff others).toList ↔ name ∈ names.toList ∧ name ∉ others.toList := by
  simp [diff]

theorem mem_sorted (names : Names) (name : String) :
    name ∈ names.sorted ↔ name ∈ names.toList := List.mem_mergeSort

/-- Sets with the same members have the same number of them. -/
theorem size_congr {names others : Names}
    (same : ∀ name, name ∈ names.toList ↔ name ∈ others.toList) :
    names.size = others.size :=
  List.Perm.length_eq ((List.perm_ext_iff_of_nodup names.nodup others.nodup).2 same)

/-- What is in both of two sets and what is only in the first make up the first. -/
theorem size_diff_add_size {names others : Names}
    (within : ∀ name, name ∈ others.toList → name ∈ names.toList) :
    (names.diff others).size + others.size = names.size := by
  have apart : ((names.diff others).toList ++ others.toList).Nodup := by
    refine List.nodup_append.2 ⟨(names.diff others).nodup, others.nodup, ?_⟩
    intro name only other both same
    exact ((mem_diff ..).1 only).2 (same ▸ both)
  have together : ((names.diff others).toList ++ others.toList).Perm names.toList := by
    refine (List.perm_ext_iff_of_nodup apart names.nodup).2 fun name => ?_
    rw [List.mem_append, mem_diff]
    constructor
    · rintro (⟨member, -⟩ | member)
      · exact member
      · exact within name member
    · intro member
      by_cases both : name ∈ others.toList
      · exact .inr both
      · exact .inl ⟨member, both⟩
  rw [size, size, ← List.length_append, together.length_eq, size]

end Names

end ArenaStandings
