import ArenaStandings.Arena.Live
import ArenaStandings.Proofs.Decimal.Doubles
import ArenaStandings.Proofs.Game.Amounts
import ArenaStandings.Proofs.Store.Reading

/-!
# What the figures of an arena are

Figures are read of an arena that is stored (`ArenaStats.exists_arena_of_readLive`), and are those
of its rounds and of the eliminations from them (`ArenaStats.result_readLive_eq_ok`). The pot and
the yield among them are sums of finite amounts, which may be infinite but are always numbers
(`ArenaStats.isNaN_potOf`, `ArenaStats.isNaN_yieldOf`).
-/

namespace ArenaStandings

namespace ArenaStats

/-! ## Reading -/

variable {store : Store} {arenaId moment : String} {stats : ArenaStats}

/-- Figures are the arena, its rounds and the eliminations from them, put together. -/
theorem result_readLive_eq_ok :
    (readLive arenaId moment).result store = .ok stats ↔
      ∃ arena rounds eliminations,
        (Arena.readById arenaId).result store = .ok (some arena) ∧
        (Round.readOfArena arenaId).result store = .ok rounds ∧
        (Elimination.readOfRounds (rounds.map Round.id)).result store = .ok eliminations ∧
        compute arenaId arena rounds eliminations moment = .valid stats := by
  have checked : ∀ check : Checked ArenaStats, check.orFail = .ok stats ↔
      check = .valid stats := by
    intro check
    cases check <;> simp [Checked.orFail]
  unfold readLive
  rw [Read.result_bind_eq_ok]
  constructor
  · intro given
    obtain ⟨arena?, found, rest⟩ := given
    cases arena? with
    | none => cases rest
    | some arena =>
      obtain ⟨rounds, listed, rest⟩ := Read.result_bind_eq_ok.1 rest
      obtain ⟨eliminations, listed', computed⟩ := Read.result_bind_eq_ok.1 rest
      rw [Read.result_ofChecked, checked] at computed
      exact ⟨arena, rounds, eliminations, found, listed, listed', computed⟩
  · intro given
    obtain ⟨arena, rounds, eliminations, found, listed, listed', computed⟩ := given
    refine ⟨some arena, found, Read.result_bind_eq_ok.2 ⟨rounds, listed, ?_⟩⟩
    refine Read.result_bind_eq_ok.2 ⟨eliminations, listed', ?_⟩
    rw [Read.result_ofChecked, checked]
    exact computed

/-- Once an arena and its rounds are read, the eliminations and the figures are left. -/
theorem result_readLive_of_rounds {arena : Arena} {rounds : List Round}
    (found : (Arena.readById arenaId).result store = .ok (some arena))
    (listed : (Round.readOfArena arenaId).result store = .ok rounds) :
    (readLive arenaId moment).result store =
      (Elimination.readOfRounds (rounds.map Round.id) >>= fun eliminations =>
        Read.ofChecked (compute arenaId arena rounds eliminations moment)).result store := by
  unfold readLive
  rw [Read.result_bind_of_eq_ok found]
  dsimp only
  rw [Read.result_bind_of_eq_ok listed]

/-- Figures are read of an arena that is stored. -/
theorem exists_arena_of_readLive (given : (readLive arenaId moment).result store = .ok stats) :
    ∃ document ∈ store.arenas.documents, document.get "_id" = .text arenaId := by
  obtain ⟨arena, -, -, found, -⟩ := result_readLive_eq_ok.1 given
  obtain ⟨document?, looked, checked⟩ :=
    Read.result_bind_eq_ok.1 (Read.result_part_eq_ok.1 found)
  cases document? with
  | none => cases checked
  | some document =>
    obtain ⟨-, present⟩ := Read.result_findFirst_eq_ok.1 looked
    exact ⟨document, List.mem_of_find?_eq_some present,
      Condition.holds_equals_iff.1 (List.find?_some present)⟩

/-- The figures show how many users were eliminated, and not in which order; the moment is shown as
it is, and in one place only. -/
theorem compute_eq_map {eliminations eliminations' : List Elimination}
    (same : ∀ elimination, elimination ∈ eliminations ↔ elimination ∈ eliminations')
    (arenaId : String) (arena : Arena) (rounds : List Round) (moment moment' : String) :
    compute arenaId arena rounds eliminations' moment' =
      (compute arenaId arena rounds eliminations moment).map
        fun stats => { stats with lastUpdated := moment' } := by
  have size : (eliminatedOf eliminations').size = (eliminatedOf eliminations).size := by
    refine Names.size_congr fun userId => ?_
    simp only [eliminatedOf, Names.mem_ofList, List.mem_map, same]
  rw [compute, compute, size]
  cases feeOf arena <;> rfl

/-- Figures, or the failure to put them together, do not depend on the order of the eliminations. -/
theorem compute_congr {eliminations eliminations' : List Elimination}
    (same : ∀ elimination, elimination ∈ eliminations ↔ elimination ∈ eliminations')
    (arenaId : String) (arena : Arena) (rounds : List Round) (moment moment' : String) :
    (compute arenaId arena rounds eliminations' moment').orFail =
      (compute arenaId arena rounds eliminations moment).orFail.map
        fun stats => { stats with lastUpdated := moment' } := by
  rw [compute_eq_map same arenaId arena rounds moment moment']
  cases compute arenaId arena rounds eliminations moment <;> rfl

/-! ## Sums -/

theorem isNaN_total {amounts : List Float}
    (finite : ∀ amount ∈ amounts, amount.isFinite = true) : (total amounts).isNaN = false :=
  Double.isNaN_foldl_add (by decide) finite

/-- The pot is a number, whatever the latest round says. -/
theorem isNaN_potOf (rounds : List Round) : (potOf rounds).isNaN = false := by
  unfold potOf
  cases rounds.getLast? with
  | none => decide
  | some round =>
    apply isNaN_total
    intro amount member
    obtain ⟨choice, chosen, rfl⟩ := List.mem_map.1 member
    exact Metadata.isFinite_stake chosen

/-- The yield is a number, whatever the rounds say. -/
theorem isNaN_yieldOf (rounds : List Round) : (yieldOf rounds).isNaN = false := by
  apply isNaN_total
  intro amount member
  obtain ⟨round, -, rfl⟩ := List.mem_map.1 member
  exact Metadata.isFinite_oracleYield round.metadata

/-- The pot and the yield that are read are numbers. -/
theorem isNaN_of_readLive (given : (readLive arenaId moment).result store = .ok stats) :
    stats.currentPot.isNaN = false ∧ stats.yieldAccrued.isNaN = false := by
  obtain ⟨arena, rounds, eliminations, -, -, -, computed⟩ := result_readLive_eq_ok.1 given
  obtain ⟨fee, -, rfl⟩ := Checked.map_eq_valid_iff.1 computed
  exact ⟨isNaN_potOf rounds, isNaN_yieldOf rounds⟩

end ArenaStats

end ArenaStandings
