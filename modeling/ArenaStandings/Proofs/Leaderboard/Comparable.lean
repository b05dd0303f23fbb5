import ArenaStandings.Proofs.Arena.Figures
import ArenaStandings.Proofs.Leaderboard.Rebuild

/-!
# Every roster can be ordered

Finite amounts may add up to an infinity, but never to what is no number. So what was paid to
players is a number, and any two lines of a roster can be compared by it: the comparison is a total
order (`Roster.ComparesTotally`). The main statement is `Leaderboard.sums_comparable`.
-/

namespace ArenaStandings

/-- Two standings agree in all that the order looks at. -/
def Standing.Level (first second : Standing) : Prop :=
  (first.totalYield == second.totalYield) = true ∧ first.arenasWon = second.arenasWon ∧
    first.id = second.id

theorem Standing.level_iff {first second : Standing} (number : first.totalYield.isNaN = false)
    (number' : second.totalYield.isNaN = false) :
    first.Level second ↔ first.key = second.key := by
  rw [Level, Double.beq_iff_place_eq number number']
  simp only [key, EmbeddingLike.apply_eq_iff_eq, Prod.mk.injEq]

namespace Roster

/-- The comparison is a total order on some standings, in which those that are level count as
one. -/
structure ComparesTotally (standings : List Standing) : Prop where
  asymm : ∀ first ∈ standings, ∀ second ∈ standings, precedes first second = true →
    precedes second first = false
  trans : ∀ first ∈ standings, ∀ second ∈ standings, ∀ third ∈ standings,
    precedes first second = true → precedes second third = true → precedes first third = true
  /-- Of two standings that are not level one comes first. -/
  level_iff : ∀ first ∈ standings, ∀ second ∈ standings,
    first.Level second ↔ precedes first second = false ∧ precedes second first = false
  level_trans : ∀ first ∈ standings, ∀ second ∈ standings, ∀ third ∈ standings,
    first.Level second → second.Level third → first.Level third

/-- Numbers compare totally. -/
theorem comparesTotally_of_isNaN {standings : List Standing}
    (number : ∀ standing ∈ standings, standing.totalYield.isNaN = false) :
    ComparesTotally standings := by
  have before : ∀ first ∈ standings, ∀ second ∈ standings,
      (precedes first second = true ↔ first.key < second.key) :=
    fun first member second member' =>
      precedes_iff (number first member) (number second member')
  have level : ∀ first ∈ standings, ∀ second ∈ standings,
      (first.Level second ↔ first.key = second.key) :=
    fun first member second member' =>
      Standing.level_iff (number first member) (number second member')
  constructor
  · intro first member second member' precede
    rw [← Bool.not_eq_true, before second member' first member]
    exact lt_asymm ((before first member second member').1 precede)
  · intro first member second member' third member'' precede precede'
    rw [before first member third member'']
    exact ((before first member second member').1 precede).trans
      ((before second member' third member'').1 precede')
  · intro first member second member'
    rw [level first member second member', ← Bool.not_eq_true, ← Bool.not_eq_true,
      before first member second member', before second member' first member, not_lt, not_lt,
      le_antisymm_iff]
    exact and_comm
  · intro first member second member' third member'' same same'
    rw [level first member third member'']
    exact ((level first member second member').1 same).trans
      ((level second member' third member'').1 same')

end Roster

namespace Leaderboard

/-- **Every sum is a number.** Whatever the bags of the rounds hold, what was paid to a player is a
number, and so are the pot and the yield of an arena. Any roster that is made of such rounds and
eliminations compares totally, and of any two lines of it that differ one comes first. -/
theorem sums_comparable :
    (∀ rounds eliminations userId tally,
      (Tally.collect rounds eliminations).find? userId = some tally →
        tally.totalYield.isNaN = false) ∧
    (∀ rounds,
      (ArenaStats.potOf rounds).isNaN = false ∧ (ArenaStats.yieldOf rounds).isNaN = false) ∧
    (∀ store arenaId moment stats,
      (ArenaStats.readLive arenaId moment).result store = .ok stats →
        stats.currentPot.isNaN = false ∧ stats.yieldAccrued.isNaN = false) ∧
    ∀ rounds eliminations identities,
      let roster := Roster.join (Tally.collect rounds eliminations) identities
      Roster.ComparesTotally roster ∧
        roster.Pairwise fun first second =>
          Roster.precedes first second = true ∨ Roster.precedes second first = true := by
  refine ⟨fun rounds eliminations userId tally => Tally.isNaN_totalYield, fun rounds =>
    ⟨ArenaStats.isNaN_potOf rounds, ArenaStats.isNaN_yieldOf rounds⟩,
    fun store arenaId moment stats => ArenaStats.isNaN_of_readLive, ?_⟩
  intro rounds eliminations identities roster
  have total : Roster.ComparesTotally roster :=
    Roster.comparesTotally_of_isNaN fun line => Roster.isNaN_of_mem_join
  refine ⟨total, ?_⟩
  have differ : roster.Pairwise fun first second => first.id ≠ second.id :=
    List.pairwise_map.1 (Roster.nodup_ids_join _ _)
  refine differ.imp_of_mem fun {first second} member member' apart => ?_
  by_contra neither
  simp only [not_or, Bool.not_eq_true] at neither
  exact apart ((total.level_iff first member second member').2 neither).2.2

/-- A bag with two players who get and stake so much that it adds up to infinities, and with entries
that are no number or beyond the doubles. -/
def overflowBag : Value := .record [
  ("playerChoices", .list [
    .record [("userId", .text "u"), ("stake", .float 1.7e308)],
    .record [("userId", .text "v"), ("stake", .float 1.7e308)],
    .record [("userId", .text "w"), ("stake", .float (0 / 0))]]),
  ("resolution", .record [("payouts", .list [
    .record [("userId", .text "u"), ("amount", .float 1.7e308)],
    .record [("userId", .text "v"), ("amount", .float (-1.7e308))],
    .record [("userId", .text "u"), ("amount", .float 1.7e308)],
    .record [("userId", .text "v"), ("amount", .float (-1.7e308))],
    .record [("userId", .text "u"), ("amount", .float (-1 / 0))],
    .record [("userId", .text "w"), ("amount", .int (Nat.pow 10 400))]])]),
  ("oracleYield", .float (1 / 0))]

/-- An arena with a round that holds this bag. -/
def overflowStore : Store where
  rounds := ⟨[[("_id", .text "r"), ("arena_id", .text "a"), ("state", .text "RESOLVED"),
    ("metadata", overflowBag)]], none⟩
  eliminations := ⟨[], none⟩
  users := ⟨[], none⟩
  arenas := ⟨[[("_id", .text "a")]], none⟩

/-- The sums are infinite and still numbers, and the three players compare totally. -/
theorem sums_comparable_overflow :
    (∃ tally, (Tally.collect [⟨"a", overflowBag⟩] []).find? "u" = some tally ∧
      tally.totalYield.isInf = true ∧ tally.totalYield.isNaN = false) ∧
    (∃ stats, (ArenaStats.readLive "a" "noon").result overflowStore = .ok stats ∧
      stats.currentPot.isInf = true ∧ stats.currentPot.isNaN = false ∧
      stats.yieldAccrued.isNaN = false) ∧
    Roster.ComparesTotally (Roster.join (Tally.collect [⟨"a", overflowBag⟩] [])
      [⟨"u", "0x1"⟩, ⟨"v", "0x2"⟩, ⟨"w", "0x3"⟩]) := by
  obtain ⟨paid, -, shown, compared⟩ := sums_comparable
  have infinite : ((Tally.collect [⟨"a", overflowBag⟩] []).find? "u").map
      (fun tally => tally.totalYield.isInf) = some true := by decide +kernel
  have infinite' : ((ArenaStats.readLive "a" "noon").result overflowStore).map
      (fun stats => stats.currentPot.isInf) = .ok true := by decide +kernel
  refine ⟨?_, ?_, (compared _ _ _).1⟩
  · obtain ⟨tally, found, above⟩ := Option.map_eq_some_iff.1 infinite
    exact ⟨tally, found, above, paid _ _ _ _ found⟩
  · cases given : (ArenaStats.readLive "a" "noon").result overflowStore with
    | error failure =>
      rw [given] at infinite'
      cases infinite'
    | ok stats =>
      rw [given] at infinite'
      exact ⟨stats, rfl, Except.ok.inj infinite', shown _ _ _ _ given⟩

end Leaderboard

end ArenaStandings
