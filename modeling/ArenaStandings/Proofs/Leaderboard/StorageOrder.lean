import ArenaStandings.Proofs.Leaderboard.Pages
import ArenaStandings.Proofs.Leaderboard.Rebuild

/-!
# The order of the storage is not seen

Eliminations and users may lie in the storage in any order, and so may rounds, as long as those that
carry payouts keep theirs: a sum of doubles depends on the order of its terms. Storages that differ
in no more than this are `Store.Rearranged`. They attribute the same arenas
(`Elimination.inRounds?_eq_of_perm`) and give every player the same line
(`Leaderboard.standingsIn_perm`), and as the lines of different players are never level, the
rankings are the same and so is every page (`Leaderboard.readPage_eq_of_rearranged`).
-/

namespace ArenaStandings

/-- Does the bag of a round hold payouts? -/
def ResolvedRound.hasPayouts (round : ResolvedRound) : Bool :=
  !(Metadata.ofValue round.metadata).payouts.isEmpty

/-- Does the bag of a round's document hold payouts? -/
def carriesPayouts (document : Record) : Bool :=
  !(Metadata.ofValue (document.get "metadata")).payouts.isEmpty

/-- Two storages hold the same rounds, eliminations and users, each in any order, except that rounds
with payouts are in the same order. -/
structure Store.Rearranged (first second : Store) : Prop where
  rounds : first.rounds.documents.Perm second.rounds.documents
  paying : first.rounds.documents.filter carriesPayouts =
    second.rounds.documents.filter carriesPayouts
  eliminations : first.eliminations.documents.Perm second.eliminations.documents
  users : first.users.documents.Perm second.users.documents

theorem Store.Rearranged.symm {first second : Store} (rearranged : first.Rearranged second) :
    second.Rearranged first :=
  ⟨rearranged.rounds.symm, rearranged.paying.symm, rearranged.eliminations.symm,
    rearranged.users.symm⟩

/-! ## The payouts of a player -/

namespace Tally

/-- Rounds without payouts pay nothing to anyone. -/
theorem amounts_marks_filter (rounds : List ResolvedRound) (eliminations : List Elimination)
    (userId : String) :
    (marksOf userId (marks (rounds.filter ResolvedRound.hasPayouts) eliminations)).filterMap
        Mark.amount? =
      (marksOf userId (marks rounds eliminations)).filterMap Mark.amount? := by
  have paying : (rounds.filter ResolvedRound.hasPayouts).flatMap ResolvedRound.payouts =
      rounds.flatMap ResolvedRound.payouts := by
    induction rounds with
    | nil => rfl
    | cons round rounds ih =>
      rw [List.filter_cons, List.flatMap_cons, ← ih]
      split
      · rw [List.flatMap_cons]
      · rename_i unpaid
        have none : round.payouts = [] := by
          simpa [ResolvedRound.hasPayouts, ResolvedRound.payouts] using unpaid
        rw [none, List.nil_append]
  rw [amounts_marks, amounts_marks, paying]

end Tally

namespace Leaderboard

variable {first second : Store}

theorem roundsIn_perm (rearranged : first.Rearranged second) :
    (roundsIn first).Perm (roundsIn second) :=
  (rearranged.rounds.filter _).filterMap _

/-- The resolved rounds with payouts come from the documents with payouts. -/
theorem filter_roundsIn (store : Store) :
    (roundsIn store).filter ResolvedRound.hasPayouts =
      ((store.rounds.documents.filter carriesPayouts).filter
        (Condition.equals "state" resolvedState).holds).filterMap ResolvedRound.ofDocument? := by
  have kept : ∀ document, (ResolvedRound.ofDocument? document).filter ResolvedRound.hasPayouts =
      if carriesPayouts document then ResolvedRound.ofDocument? document else none := by
    intro document
    unfold ResolvedRound.ofDocument?
    cases (document.get "arena_id").isNull with
    | true => simp
    | false => rfl
  rw [roundsIn, ResolvedRound.documentsIn, List.filter_filterMap, List.filter_comm,
    List.filterMap_filter (p := carriesPayouts)]
  exact List.filterMap_congr fun document _ => kept document

/-- Every player is paid the same amounts in the same order. -/
theorem amounts_eq (rearranged : first.Rearranged second) (userId : String) :
    (Tally.marksOf userId (Tally.marks (roundsIn first) (eliminationsIn first))).filterMap
        Tally.Mark.amount? =
      (Tally.marksOf userId (Tally.marks (roundsIn second) (eliminationsIn second))).filterMap
        Tally.Mark.amount? := by
  rw [← Tally.amounts_marks_filter, ← Tally.amounts_marks_filter (roundsIn second),
    filter_roundsIn, filter_roundsIn, rearranged.paying, Tally.amounts_marks, Tally.amounts_marks]

/-! ## Lines and pages -/

theorem eliminationsIn_perm (rearranged : first.Rearranged second)
    (distinct : first.DistinctIds .rounds) :
    (eliminationsIn first).Perm (eliminationsIn second) := by
  rw [eliminationsIn, eliminationsIn,
    Elimination.inRounds?_eq_of_perm rearranged.rounds distinct]
  exact rearranged.eliminations.filterMap _

theorem marks_perm (rearranged : first.Rearranged second) (distinct : first.DistinctIds .rounds)
    (userId : String) :
    (Tally.marksOf userId (Tally.marks (roundsIn first) (eliminationsIn first))).Perm
      (Tally.marksOf userId (Tally.marks (roundsIn second) (eliminationsIn second))) :=
  ((((roundsIn_perm rearranged).flatMap_right _).append
    ((eliminationsIn_perm rearranged distinct).map _)).filter _).map _

/-- A player with a tally in one storage has one in the other, and the two make the same line. -/
theorem find?_talliesIn_of_rearranged (rearranged : first.Rearranged second)
    (distinct : first.DistinctIds .rounds) {userId : String} {tally : Tally}
    (found : (talliesIn first).find? userId = some tally) :
    ∃ other, (talliesIn second).find? userId = some other ∧
      ∀ wallet, Roster.standing userId wallet tally = Roster.standing userId wallet other := by
  have same := marks_perm rearranged distinct userId
  have paid := amounts_eq rearranged userId
  rw [talliesIn, Tally.find?_collect] at found ⊢
  split at found
  · cases found
  · rename_i marked
    cases found
    rw [if_neg fun none => marked (none ▸ same).eq_nil]
    refine ⟨_, rfl, fun wallet => ?_⟩
    rw [Roster.standing, Roster.standing, Tally.totalYield_addAll_congr paid,
      Tally.arenasWon_addAll_perm same, Tally.survivalStreak_addAll_perm same]

theorem distinctIds_of_rearranged (rearranged : first.Rearranged second)
    (distinct : first.DistinctIds .rounds) (distinct' : first.DistinctIds .users) :
    second.DistinctIds .rounds ∧ second.DistinctIds .users :=
  ⟨(rearranged.rounds.map _).nodup_iff.1 distinct,
    (rearranged.users.map _).nodup_iff.1 distinct'⟩

theorem mem_standingsIn_of_rearranged (rearranged : first.Rearranged second)
    (distinct : first.DistinctIds .rounds) (distinct' : first.DistinctIds .users) {line : Standing}
    (member : line ∈ standingsIn first) : line ∈ standingsIn second := by
  obtain ⟨userId, tally, wallet, found, ⟨user, stored, shown⟩, rfl⟩ :=
    (mem_standingsIn distinct').1 member
  obtain ⟨other, found', same⟩ := find?_talliesIn_of_rearranged rearranged distinct found
  exact (mem_standingsIn (distinctIds_of_rearranged rearranged distinct distinct').2).2
    ⟨userId, other, wallet, found', ⟨user, rearranged.users.mem_iff.1 stored, shown⟩,
      same wallet⟩

theorem standingsIn_perm (rearranged : first.Rearranged second)
    (distinct : first.DistinctIds .rounds) (distinct' : first.DistinctIds .users) :
    (standingsIn first).Perm (standingsIn second) := by
  have once : ∀ store, (standingsIn store).Nodup := fun store =>
    (Roster.nodup_ids_join _ _).of_map _
  refine (List.perm_ext_iff_of_nodup (once first) (once second)).2 fun line => ⟨?_, ?_⟩
  · exact mem_standingsIn_of_rearranged rearranged distinct distinct'
  · obtain ⟨back, back'⟩ := distinctIds_of_rearranged rearranged distinct distinct'
    exact mem_standingsIn_of_rearranged rearranged.symm back back'

/-- Rearranged storages have one ranking. -/
theorem rankingIn_eq_of_rearranged (rearranged : first.Rearranged second)
    (distinct : first.DistinctIds .rounds) (distinct' : first.DistinctIds .users) :
    rankingIn first = rankingIn second :=
  Roster.rank_eq_of_perm (standingsIn_perm rearranged distinct distinct')
    (areComparable_standingsIn first) (Roster.nodup_ids_join _ _)

/-- **The leaderboard does not depend on the order of the storage.** Two storages that can be read,
whose integers can be written, whose rounds and users have different identifiers, and which differ
only in the order of their eliminations, their users and their rounds, with rounds that carry
payouts in one order, give the same page for every length and every cursor. With an offset in the
cursor a page is given, unless the offset after it has too many digits to be written. -/
theorem readPage_eq_of_rearranged (rearranged : first.Rearranged second)
    (readable : first.Readable) (readable' : second.Readable) (legible : first.Legible)
    (legible' : second.Legible) (distinct : first.DistinctIds .rounds)
    (distinct' : first.DistinctIds .users) (limit : Int) (cursor : Option String) :
    (readPage limit cursor).result first = (readPage limit cursor).result second ∧
      ∀ offset, Cursor.decode cursor = .ok offset → Value.intLegible (offset + limit) = true →
        ∃ page, (readPage limit cursor).result first = .ok page ∧
          (readPage limit cursor).result second = .ok page := by
  have built := result_readPage (result_readRanked readable legible) limit cursor
  have built' := result_readPage (result_readRanked readable' legible') limit cursor
  rw [rankingIn_eq_of_rearranged rearranged distinct distinct'] at built
  rw [built, built']
  exact ⟨rfl, fun offset decoded writable => ⟨_, Page.cut_eq decoded fun _ => writable,
    Page.cut_eq decoded fun _ => writable⟩⟩

/-- A storage with two players who are level, and with a payout to somebody who has no document. -/
def pairStore : Store where
  rounds := ⟨[
    [("_id", .text "r"), ("state", .text "RESOLVED"), ("arena_id", .text "a"),
      ("metadata", .record [("playerChoices", .list [.record [("userId", .text "v")]])])],
    [("_id", .text "s"), ("state", .text "RESOLVED"), ("arena_id", .text "b"),
      ("metadata", .record [("playerChoices", .list [.record [("userId", .text "u")]]),
        ("resolution", .record [("payouts", .list [.record [("userId", .text "w")]])])])]], none⟩
  eliminations := ⟨[[("_id", .text "l"), ("user_id", .text "u"), ("round_id", .text "r")],
    [("_id", .text "m"), ("user_id", .text "v"), ("arena_id", .text "c")]], none⟩
  users := ⟨[[("_id", .text "v"), ("wallet_address", .text "0x2")],
    [("_id", .text "u"), ("wallet_address", .text "0x1")]], none⟩
  arenas := ⟨[], none⟩

/-- A storage with its collections backwards. -/
def backwards (store : Store) : Store where
  rounds := { store.rounds with documents := store.rounds.documents.reverse }
  eliminations := { store.eliminations with documents := store.eliminations.documents.reverse }
  users := { store.users with documents := store.users.documents.reverse }
  arenas := store.arenas

/-- Backwards, the storage gives the same first page. -/
theorem readPage_eq_of_rearranged_pair :
    pairStore.Rearranged (backwards pairStore) ∧
      ∃ page, (readPage 1 none).result pairStore = .ok page ∧
        (readPage 1 none).result (backwards pairStore) = .ok page := by
  have rearranged : pairStore.Rearranged (backwards pairStore) :=
    ⟨(List.reverse_perm _).symm, rfl, (List.reverse_perm _).symm, (List.reverse_perm _).symm⟩
  have distinct : pairStore.DistinctIds .rounds ∧ pairStore.DistinctIds .users := by
    simp [Store.DistinctIds, Store.get, pairStore, Record.get, Record.get?, Table.lookupRows]
  exact ⟨rearranged, (readPage_eq_of_rearranged rearranged (by decide) (by decide)
    (by decide +kernel) (by decide +kernel) distinct.1 distinct.2 1 none).2 0 rfl
      (by decide +kernel)⟩

end Leaderboard

end ArenaStandings
