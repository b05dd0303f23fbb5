/-!
# Keyed tables

A `Table κ α` holds rows in the order in which their keys were first written, each key at most
once. Writing a present key changes its row in place; writing a new key adds a row at the end. The
view is `find?`, and each operation says what it does to that view (`find?_insert`, `find?_filter`,
…) and to the order of the keys (`keys_insert`, `keys_filter`).
-/

namespace ArenaStandings

/-- The last of the elements that pass a test is the one that passes, if there is only one. -/
theorem getLast?_filter_eq_some_iff {α : Type} {list : List α} {test : α → Bool}
    (unique : ∀ first ∈ list, ∀ second ∈ list, test first = true → test second = true →
      first = second) {element : α} :
    (list.filter test).getLast? = some element ↔ element ∈ list ∧ test element = true := by
  rw [← List.mem_filter]
  refine ⟨List.mem_of_getLast?, fun member => ?_⟩
  have last := List.mem_filter.1 (List.getLast_mem (List.ne_nil_of_mem member))
  have passing := List.mem_filter.1 member
  rw [List.getLast?_eq_some_getLast (List.ne_nil_of_mem member),
    unique _ last.1 element passing.1 last.2 passing.2]

/-- Rows with pairwise distinct keys, in the order in which the keys were first written. -/
structure Table (κ α : Type) where
  rows : List (κ × α)
  keys_nodup : (rows.map Prod.fst).Nodup

namespace Table

variable {κ α : Type}

def empty : Table κ α := ⟨[], by simp⟩

instance : Inhabited (Table κ α) := ⟨empty⟩

/-- The keys, in the order in which they were first written. -/
def keys (table : Table κ α) : List κ := table.rows.map Prod.fst

/-- The number of rows. -/
def size (table : Table κ α) : Nat := table.rows.length

@[simp] theorem keys_empty : (empty : Table κ α).keys = [] := rfl

/-- A table is determined by its rows. -/
theorem eq_of_rows_eq {first second : Table κ α} (same : first.rows = second.rows) :
    first = second := by
  cases first
  cases second
  cases same
  rfl

theorem keys_eq_nil_iff {table : Table κ α} : table.keys = [] ↔ table = .empty := by
  constructor
  · intro none
    exact eq_of_rows_eq (List.map_eq_nil_iff.1 none)
  · intro same
    rw [same, keys_empty]

/-- Keep the rows that pass a test; the others are dropped and the order stays. -/
def filter (table : Table κ α) (test : κ → α → Bool) : Table κ α where
  rows := table.rows.filter fun row => test row.1 row.2
  keys_nodup := table.keys_nodup.sublist (List.filter_sublist.map Prod.fst)

variable [DecidableEq κ]

/-- The value in the first row with the key. -/
def lookupRows (key : κ) : List (κ × α) → Option α
  | [] => none
  | (other, value) :: rest => if other = key then some value else lookupRows key rest

/-- Overwrite the row of the key, or add one at the end. -/
def insertRows (key : κ) (value : α) : List (κ × α) → List (κ × α)
  | [] => [(key, value)]
  | (other, old) :: rest =>
    if other = key then (other, value) :: rest else (other, old) :: insertRows key value rest

theorem map_fst_insertRows (key : κ) (value : α) (rows : List (κ × α)) :
    (insertRows key value rows).map Prod.fst =
      if key ∈ rows.map Prod.fst then rows.map Prod.fst else rows.map Prod.fst ++ [key] := by
  induction rows with
  | nil => simp [insertRows]
  | cons row rest ih =>
    obtain ⟨other, old⟩ := row
    by_cases same : other = key
    · subst same; simp [insertRows]
    · have differ : key ≠ other := fun h => same h.symm
      simp only [insertRows, if_neg same, List.map_cons, ih, List.mem_cons, differ, false_or]
      split <;> simp

theorem nodup_insertRows (key : κ) (value : α) {rows : List (κ × α)}
    (nodup : (rows.map Prod.fst).Nodup) : ((insertRows key value rows).map Prod.fst).Nodup := by
  rw [map_fst_insertRows]
  split
  · exact nodup
  · rename_i absent
    rw [List.nodup_append]
    refine ⟨nodup, by simp, ?_⟩
    intro a member b last
    rw [List.mem_singleton.1 last]
    exact fun same => absent (same ▸ member)

/-- The value stored under a key. -/
def find? (table : Table κ α) (key : κ) : Option α := lookupRows key table.rows

def contains (table : Table κ α) (key : κ) : Bool := (table.find? key).isSome

/-- Write a value under a key: in place if the key is present, at the end if it is new. -/
def insert (table : Table κ α) (key : κ) (value : α) : Table κ α where
  rows := insertRows key value table.rows
  keys_nodup := nodup_insertRows key value table.keys_nodup

/-- Remove the row of a key, if there is one. -/
def erase (table : Table κ α) (key : κ) : Table κ α :=
  table.filter fun other _ => other ≠ key

/-- Write under a key what a function makes of the value found there. -/
def alter (table : Table κ α) (key : κ) (change : Option α → α) : Table κ α :=
  table.insert key (change (table.find? key))

/-- Write the pairs one after the other, so that of two with one key the later wins. -/
def ofList (pairs : List (κ × α)) : Table κ α :=
  pairs.foldl (fun table pair => table.insert pair.1 pair.2) empty

/-! ## The view of each operation -/

@[simp] theorem find?_empty (key : κ) : (empty : Table κ α).find? key = none := rfl

theorem lookupRows_insertRows (key other : κ) (value : α) (rows : List (κ × α)) :
    lookupRows other (insertRows key value rows) =
      if other = key then some value else lookupRows other rows := by
  induction rows with
  | nil =>
    by_cases same : other = key
    · simp [insertRows, lookupRows, same]
    · have differ : ¬ key = other := fun h => same h.symm
      simp [insertRows, lookupRows, same, differ]
  | cons row rest ih =>
    obtain ⟨first, old⟩ := row
    by_cases here : first = key
    · subst here
      by_cases same : other = first
      · simp [insertRows, lookupRows, same]
      · have differ : ¬ first = other := fun h => same h.symm
        simp [insertRows, lookupRows, same, differ]
    · by_cases same : first = other
      · subst same; simp [insertRows, lookupRows, here]
      · simp [insertRows, lookupRows, here, same, ih]

/-- Reading after writing: the written key shows the new value, every other key is as before. -/
theorem find?_insert (table : Table κ α) (key other : κ) (value : α) :
    (table.insert key value).find? other = if other = key then some value else table.find? other :=
  lookupRows_insertRows key other value table.rows

theorem lookupRows_eq_none_iff (key : κ) (rows : List (κ × α)) :
    lookupRows key rows = none ↔ key ∉ rows.map Prod.fst := by
  induction rows with
  | nil => simp [lookupRows]
  | cons row rest ih =>
    obtain ⟨other, value⟩ := row
    by_cases same : other = key
    · simp [lookupRows, same]
    · have differ : ¬ key = other := fun h => same h.symm
      simp [lookupRows, same, ih, differ]

/-- A key has a value exactly when it is among the keys. -/
theorem find?_eq_none_iff (table : Table κ α) (key : κ) :
    table.find? key = none ↔ key ∉ table.keys := lookupRows_eq_none_iff key table.rows

theorem mem_keys_iff (table : Table κ α) {key : κ} :
    key ∈ table.keys ↔ ∃ value, table.find? key = some value := by
  rw [← Option.ne_none_iff_exists', Ne, find?_eq_none_iff, Classical.not_not]

theorem lookupRows_eq_some_iff {key : κ} {value : α} {rows : List (κ × α)}
    (nodup : (rows.map Prod.fst).Nodup) :
    lookupRows key rows = some value ↔ (key, value) ∈ rows := by
  induction rows with
  | nil => simp [lookupRows]
  | cons row rest ih =>
    obtain ⟨other, old⟩ := row
    rw [List.map_cons, List.nodup_cons] at nodup
    by_cases same : other = key
    · subst same
      have fresh : (other, value) ∉ rest := fun member =>
        nodup.1 (List.mem_map.2 ⟨(other, value), member, rfl⟩)
      simp [lookupRows, fresh, eq_comm]
    · have differ : ¬ key = other := fun h => same h.symm
      simp [lookupRows, same, ih nodup.2, differ]

/-- The view and the rows say the same. -/
theorem find?_eq_some_iff (table : Table κ α) {key : κ} {value : α} :
    table.find? key = some value ↔ (key, value) ∈ table.rows :=
  lookupRows_eq_some_iff table.keys_nodup

/-- Reading after a filter: a value is there exactly when it was there and passes. -/
theorem find?_filter (table : Table κ α) (test : κ → α → Bool) (key : κ) :
    (table.filter test).find? key = (table.find? key).filter (test key) := by
  cases found : table.find? key with
  | none =>
    rw [find?_eq_none_iff] at found
    refine (find?_eq_none_iff _ _).2 fun member => found ?_
    obtain ⟨row, present, same⟩ := List.mem_map.1 member
    exact List.mem_map.2 ⟨row, (List.mem_filter.1 present).1, same⟩
  | some value =>
    have member := (find?_eq_some_iff table).1 found
    by_cases passes : test key value = true
    · rw [Option.filter_some_pos passes, find?_eq_some_iff]
      exact List.mem_filter.2 ⟨member, passes⟩
    · rw [Option.filter_some_neg (by simpa using passes)]
      cases again : (table.filter test).find? key with
      | none => rfl
      | some stored =>
        have kept := List.mem_filter.1 ((find?_eq_some_iff _).1 again)
        have : some value = some stored := by
          rw [← found, ← (find?_eq_some_iff table).2 kept.1]
        cases this
        exact absurd kept.2 passes

/-- Reading after a removal: the key is gone, every other key is as before. -/
theorem find?_erase (table : Table κ α) (key other : κ) :
    (table.erase key).find? other = if other = key then none else table.find? other := by
  rw [erase, find?_filter]
  by_cases same : other = key
  · cases table.find? other <;> simp [same]
  · cases table.find? other <;> simp [same]

theorem find?_foldl_insert (table : Table κ α) (pairs : List (κ × α)) (key : κ) :
    (pairs.foldl (fun table pair => table.insert pair.1 pair.2) table).find? key =
      ((pairs.filter fun pair => pair.1 = key).getLast?.map Prod.snd).or (table.find? key) := by
  induction pairs generalizing table with
  | nil => rfl
  | cons pair pairs ih =>
    rw [List.foldl_cons, ih, find?_insert, List.filter_cons]
    by_cases same : pair.1 = key
    · cases later : (pairs.filter fun pair => pair.1 = key).getLast? <;>
        simp [same, List.getLast?_cons, later]
    · have differ : ¬ key = pair.1 := fun h => same h.symm
      simp [same, differ]

/-- Of the pairs with one key the last is found. -/
theorem find?_ofList (pairs : List (κ × α)) (key : κ) :
    (ofList pairs).find? key =
      (pairs.filter fun pair => pair.1 = key).getLast?.map Prod.snd := by
  rw [ofList, find?_foldl_insert, find?_empty, Option.or_none]

/-- Of pairs that differ in their keys each is found. -/
theorem find?_ofList_eq_some_iff {pairs : List (κ × α)}
    (unique : ∀ first ∈ pairs, ∀ second ∈ pairs, first.1 = second.1 → first = second)
    {key : κ} {value : α} :
    (ofList pairs).find? key = some value ↔ (key, value) ∈ pairs := by
  have alone : ∀ first ∈ pairs, ∀ second ∈ pairs, decide (first.1 = key) = true →
      decide (second.1 = key) = true → first = second := by
    intro first member second member' here here'
    exact unique first member second member'
      ((of_decide_eq_true here).trans (of_decide_eq_true here').symm)
  rw [find?_ofList, Option.map_eq_some_iff]
  constructor
  · rintro ⟨⟨key', value'⟩, found, rfl⟩
    obtain ⟨member, here⟩ := (getLast?_filter_eq_some_iff alone).1 found
    rw [← of_decide_eq_true here]
    exact member
  · intro member
    exact ⟨(key, value), (getLast?_filter_eq_some_iff alone).2 ⟨member, by simp⟩, rfl⟩

/-- A present key keeps its place; a new key comes last. -/
theorem keys_insert (table : Table κ α) (key : κ) (value : α) :
    (table.insert key value).keys =
      if key ∈ table.keys then table.keys else table.keys ++ [key] :=
  map_fst_insertRows key value table.rows

/-- A removal takes exactly one key away, if it is there, and moves none. -/
theorem keys_erase (table : Table κ α) (key : κ) :
    (table.erase key).keys = table.keys.filter fun other => other ≠ key := by
  simp only [erase, filter, keys, List.filter_map]
  rfl

end Table

end ArenaStandings
