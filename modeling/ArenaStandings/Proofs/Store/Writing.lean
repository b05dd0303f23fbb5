import ArenaStandings.Proofs.Store.Reading

/-!
# What stands in the way of reading

Where no collection has a fault, the reads behind the figures of an arena can fail for one reason
only: that an integer has too many digits to be written, in a field that a text is made of. What
else the documents hold does not matter (`Round.succeedsIf_readOfArena`,
`Elimination.succeedsIf_readOfRounds`).
-/

namespace ArenaStandings

namespace Read

variable {α β : Type} {fine : Prop} {store : Store}

/-- The read succeeds if all is fine, and otherwise can fail only where an integer would have to be
written. -/
def SucceedsIf (fine : Prop) (read : Read α) (store : Store) : Prop :=
  (∃ value, read.result store = .ok value) ∨
    read.result store = .error .tooManyDigits ∧ ¬ fine

namespace SucceedsIf

theorem of_eq_ok {read : Read α} {value : α} (given : read.result store = .ok value) :
    read.SucceedsIf fine store :=
  .inl ⟨value, given⟩

theorem bind {first : Read α} {next : α → Read β} (begun : first.SucceedsIf fine store)
    (rest : ∀ value, first.result store = .ok value → (next value).SucceedsIf fine store) :
    (first >>= next).SucceedsIf fine store := by
  rcases begun with ⟨value, given⟩ | ⟨refused, notFine⟩
  · unfold SucceedsIf
    rw [result_bind_of_eq_ok given]
    exact rest value given
  · refine .inr ⟨?_, notFine⟩
    rw [result_bind, refused]
    rfl

theorem part {read : Read α} (succeeds : read.SucceedsIf fine store) (part : Part) :
    (Read.part part read).SucceedsIf fine store := by
  unfold SucceedsIf
  rw [result_part]
  rcases succeeds with ⟨value, given⟩ | ⟨refused, notFine⟩
  · exact .inl ⟨value, by rw [given]; rfl⟩
  · exact .inr ⟨by rw [refused]; rfl, notFine⟩

theorem find {query : Query} (sound : (store.get query.shelf).fault = none) :
    (Read.find query).SucceedsIf fine store :=
  of_eq_ok (result_find_eq_ok.2 ⟨sound, rfl⟩)

theorem requireLegible {values : List Value}
    (legible : fine → ∀ value ∈ values, value.isLegible = true) :
    (Read.requireLegible values).SucceedsIf fine store := by
  unfold SucceedsIf
  rw [result_requireLegible]
  split
  · exact .inl ⟨(), rfl⟩
  · rename_i illegible
    exact .inr ⟨rfl, fun holds => illegible (Value.areLegible_iff.2 (legible holds))⟩

end SucceedsIf

end Read

/-- Texts can be made of what rounds and eliminations have in the fields that texts are made of. -/
structure Store.IdsLegible (store : Store) : Prop where
  rounds : ∀ document ∈ store.rounds.documents, ∀ name ∈ ["_id", "arena_id"],
    (document.get name).isLegible = true
  eliminations : ∀ document ∈ store.eliminations.documents, ∀ name ∈ Elimination.idFields,
    (document.get name).isLegible = true

variable {store : Store}

theorem Round.succeedsIf_readOfArena (sound : store.rounds.fault = none) (arenaId : String) :
    (readOfArena arenaId).SucceedsIf store.IdsLegible store := by
  unfold readOfArena
  apply Read.SucceedsIf.part
  refine .bind (.find sound) ?_
  intro documents found
  obtain ⟨-, rfl⟩ := Read.result_find_eq_ok.1 found
  apply Read.SucceedsIf.bind
  · apply Read.SucceedsIf.requireLegible
    intro legible value member
    obtain ⟨document, listed, rfl⟩ := List.mem_map.1 member
    have stored := List.mem_mergeSort.1 listed
    exact legible.rounds document (List.mem_filter.1 stored).1 "_id" (by simp)
  · intro _ _
    exact .of_eq_ok rfl

theorem succeedsIf_readArenasOfRounds (sound : store.rounds.fault = none) (roundIds : List String) :
    (readArenasOfRounds roundIds).SucceedsIf store.IdsLegible store := by
  unfold readArenasOfRounds
  split
  · exact .of_eq_ok Read.result_pure
  · refine .bind (.find sound) ?_
    intro documents found
    obtain ⟨-, rfl⟩ := Read.result_find_eq_ok.1 found
    apply Read.SucceedsIf.bind
    · apply Read.SucceedsIf.requireLegible
      intro legible value member
      obtain ⟨document, listed, rfl⟩ := List.mem_map.1 member
      exact legible.rounds document (List.mem_filter.1 listed).1 "arena_id" (by simp)
    · intro _ _
      exact .of_eq_ok Read.result_pure

namespace Elimination

theorem succeedsIf_ofDocuments (sound : store.rounds.fault = none) {documents : List Record}
    (stored : documents ⊆ store.eliminations.documents) :
    (ofDocuments documents).SucceedsIf store.IdsLegible store := by
  unfold ofDocuments
  apply Read.SucceedsIf.bind
  · apply Read.SucceedsIf.requireLegible
    intro legible value member
    obtain ⟨document, listed, rfl⟩ := List.mem_map.1 member
    exact legible.eliminations document (stored (List.mem_filter.1 listed).1) "round_id"
      (by simp [idFields])
  intro _ _
  apply Read.SucceedsIf.bind (succeedsIf_readArenasOfRounds sound _)
  intro arenas _
  apply Read.SucceedsIf.bind
  · apply Read.SucceedsIf.requireLegible
    intro legible value member
    obtain ⟨document, listed, label⟩ := List.mem_flatMap.1 member
    obtain ⟨name, field, rfl⟩ := exists_field_of_mem_labels label
    exact legible.eliminations document (stored listed) name field
  · intro _ _
    exact .of_eq_ok rfl

theorem succeedsIf_readOfRounds (sound : store.rounds.fault = none)
    (sound' : store.eliminations.fault = none) (roundIds : List String) :
    (readOfRounds roundIds).SucceedsIf store.IdsLegible store := by
  unfold readOfRounds
  apply Read.SucceedsIf.part
  split
  · exact .of_eq_ok Read.result_pure
  · refine .bind (.find sound') ?_
    intro documents found
    obtain ⟨-, rfl⟩ := Read.result_find_eq_ok.1 found
    exact succeedsIf_ofDocuments sound (List.filter_subset_self _)

end Elimination

end ArenaStandings
