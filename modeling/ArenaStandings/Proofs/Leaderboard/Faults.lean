import ArenaStandings.Proofs.Leaderboard.Completeness
import ArenaStandings.Proofs.Leaderboard.Offset
import ArenaStandings.Proofs.Leaderboard.Pages

/-!
# The fault that counts

A rebuild asks for the rounds, the eliminations and, if somebody plays, the users. The first of
these collections with a fault decides what the rebuild comes to (`Leaderboard.FirstFault`), and
nothing is made of the others. If there is none the storage is sound (`Leaderboard.Sound`), and
every page can be cut from its ranking: offsets in cursors are short enough to be written.
-/

namespace ArenaStandings

namespace Leaderboard

/-- The collection whose fault decides what the rebuild comes to, and the fault. Users are asked for
only if somebody plays. -/
inductive FirstFault (store : Store) : Part → Fault → Prop
  | rounds {fault : Fault} (faulty : store.rounds.fault = some fault) :
    FirstFault store .resolvedRounds fault
  | eliminations {fault : Fault} (rounds : store.rounds.fault = none)
      (faulty : store.eliminations.fault = some fault) : FirstFault store .eliminations fault
  | users {fault : Fault} {userId : String} (rounds : store.rounds.fault = none)
      (eliminations : store.eliminations.fault = none) (plays : Plays store userId)
      (faulty : store.users.fault = some fault) : FirstFault store .users fault

/-- Everything that the rebuild asks for can be read. -/
structure Sound (store : Store) : Prop where
  rounds : store.rounds.fault = none
  eliminations : store.eliminations.fault = none
  users : store.users.fault = none ∨ ∀ userId, ¬ Plays store userId

variable {store : Store}

theorem firstFault_or_sound (store : Store) :
    (∃ part fault, FirstFault store part fault) ∨ Sound store := by
  cases rounds : store.rounds.fault with
  | some fault => exact .inl ⟨_, fault, .rounds rounds⟩
  | none =>
    cases eliminations : store.eliminations.fault with
    | some fault => exact .inl ⟨_, fault, .eliminations rounds eliminations⟩
    | none =>
      cases users : store.users.fault with
      | none => exact .inr ⟨rounds, eliminations, .inl users⟩
      | some fault =>
        by_cases played : ∃ userId, Plays store userId
        · obtain ⟨userId, plays⟩ := played
          exact .inl ⟨_, fault, .users rounds eliminations plays users⟩
        · exact .inr ⟨rounds, eliminations, .inr (not_exists.1 played)⟩

/-- There are tallies exactly if somebody plays. -/
theorem keys_talliesIn_eq_nil_iff :
    (talliesIn store).keys = [] ↔ ∀ userId, ¬ Plays store userId := by
  rw [List.eq_nil_iff_forall_not_mem]
  refine forall_congr' fun userId => not_congr ?_
  rw [← exists_tally_iff, Table.mem_keys_iff]

/-- The rebuild of a sound storage gives its ranking. -/
theorem result_readRanked_of_sound (legible : store.Legible) (sound : Sound store) :
    readRanked.result store = .ok (rankingIn store) := by
  refine result_readRanked_of_asked legible sound.rounds sound.eliminations fun asked => ?_
  rcases sound.users with readable | nobody
  · exact readable
  · refine (asked ?_).elim
    rw [usersOf, keys_talliesIn_eq_nil_iff.2 nobody, List.mergeSort_nil]

/-- **The first fault counts.** It is told as the storage's own, or passed on. -/
theorem result_readRanked_of_firstFault (legible : store.Legible) {part : Part} {fault : Fault}
    (first : FirstFault store part fault) :
    readRanked.result store = .error (Failure.within part (.raised fault)) := by
  cases first with
  | rounds faulty =>
    have failed : ResolvedRound.readAll.result store = .error _ :=
      Read.result_part_of_fault ⟨.rounds, _⟩ faulty .resolvedRounds _
    rw [readRanked, Read.result_bind, failed]
    rfl
  | eliminations rounds faulty =>
    have failed : Elimination.readAll.result store = .error _ :=
      Read.result_part_of_fault ⟨.eliminations, _⟩ faulty .eliminations _
    rw [readRanked, Read.result_bind_of_eq_ok (ResolvedRound.result_readAll rounds legible),
      Read.result_bind, failed]
    rfl
  | @users _ userId rounds eliminations plays faulty =>
    have played : (talliesIn store).keys ≠ [] := by
      intro none
      exact keys_talliesIn_eq_nil_iff.1 none userId plays
    have asked : ¬ (usersOf (talliesIn store)).isEmpty = true := by
      rw [List.isEmpty_iff, ← List.length_eq_zero_iff, usersOf, List.length_mergeSort,
        List.length_eq_zero_iff]
      exact played
    have failed : (Identity.readByIds (usersOf (talliesIn store))).result store =
        .error (Failure.within .users (.raised fault)) := by
      rw [Identity.readByIds, if_neg asked]
      exact Read.result_part_of_fault ⟨.users, _⟩ faulty .users _
    rw [readRanked, Read.result_bind_of_eq_ok (ResolvedRound.result_readAll rounds legible),
      Read.result_bind_of_eq_ok (Elimination.result_readAll rounds eliminations legible)]
    change (if (talliesIn store).keys.isEmpty = true then _ else _ : Read _).result store = _
    rw [if_neg (by rwa [List.isEmpty_iff]), Read.result_bind]
    change (Identity.readByIds (usersOf (talliesIn store))).result store >>= _ = _
    rw [failed]
    rfl

/-! ## Pages -/

/-- A page of a sound storage is cut from its ranking, wherever a cursor points. -/
theorem exists_page_of_sound (legible : store.Legible) (sound : Sound store) {limit : Int}
    (least : 0 ≤ limit) (greatest : limit ≤ 100) {cursor : Option String} {offset : Nat}
    (decoded : Cursor.decode cursor = .ok offset) :
    ∃ page, (readPage limit cursor).result store = .ok page := by
  have writable : offset + limit < (rankingIn store).length →
      Value.intLegible (offset + limit) = true := by
    intro _
    have short := Cursor.lt_of_decode decoded
    have room : Nat.pow 2 1024 + 100 ≤ Nat.pow 10 Value.digitLimit := by decide +kernel
    refine Value.intLegible_iff.2 ?_
    omega
  rw [result_readPage (result_readRanked_of_sound legible sound), Page.cut_eq decoded writable]
  exact ⟨_, rfl⟩

theorem result_readPage_of_firstFault (legible : store.Legible) {part : Part} {fault : Fault}
    (first : FirstFault store part fault) (limit : Int) (cursor : Option String) :
    (readPage limit cursor).result store = .error (Failure.within part (.raised fault)) := by
  rw [readPage, Read.result_bind, result_readRanked_of_firstFault legible first]
  rfl

end Leaderboard

end ArenaStandings
