import ArenaStandings.Proofs.Leaderboard.Cursor
import ArenaStandings.Proofs.Leaderboard.Pages
import ArenaStandings.Proofs.Leaderboard.Rebuild

/-!
# Walking through the ranking

A client reads a page and goes on with the page's cursor until a page has none (`Leaderboard.Walk`).
One page is the stretch of the ranking from its offset on, and its cursor stands for the offset
after it (`Leaderboard.page_eq_atOffset`); the cursor can be read back because the ranking is
shorter than the numbers that are beyond the doubles. So a walk ends, and its pages put together are
the ranking from where it began (`Leaderboard.walk_covers`).
-/

namespace ArenaStandings

namespace Page

/-- The page of a length at an offset. -/
def atOffset (ranked : List Standing) (limit offset : Nat) : Page where
  players := (ranked.drop offset).take limit
  nextCursor :=
    if offset + limit < ranked.length then some (Cursor.encode (offset + limit : Nat)) else none

theorem cut_eq_atOffset {ranked : List Standing} (short : ranked.length < Double.overflowBound)
    {limit offset : Nat} {cursor : Option String} (decoded : Cursor.decode cursor = .ok offset) :
    cut ranked limit cursor = .ok (atOffset ranked limit offset) := by
  have sum : (offset + limit : Int) = (offset + limit : Nat) := rfl
  have writable : (offset + limit : Int) < ranked.length →
      Value.intLegible (offset + limit) = true := fun more =>
    Cursor.intLegible_of_lt ((Int.ofNat_lt.1 more).trans short)
  have players : stretch ranked offset (offset + limit) = (ranked.drop offset).take limit := by
    rw [sum, stretch, if_neg (by omega), Int.toNat_natCast, List.drop_take, Nat.add_sub_cancel_left]
  rw [cut_eq decoded writable, players]
  simp only [atOffset, sum, Int.ofNat_lt]

/-- The cursor of a page stands for the offset after it, which lies in the ranking. -/
theorem decode_nextCursor {ranked : List Standing} (short : ranked.length < Double.overflowBound)
    {limit offset : Nat} {next : String}
    (goesOn : (atOffset ranked limit offset).nextCursor = some next) :
    Cursor.decode (some next) = .ok (offset + limit) ∧ offset + limit < ranked.length := by
  obtain ⟨more, written⟩ := Option.ite_none_right_eq_some.1 goesOn
  rw [← written]
  exact ⟨Cursor.decode_encode (more.trans short), more⟩

theorem length_le_of_nextCursor {ranked : List Standing} {limit offset : Nat}
    (done : (atOffset ranked limit offset).nextCursor = none) :
    ranked.length ≤ offset + limit := by
  simpa [atOffset] using done

/-- A page has no cursor exactly if nothing of the ranking is left after it. -/
theorem nextCursor_atOffset_eq_none_iff {ranked : List Standing} {limit offset : Nat} :
    (atOffset ranked limit offset).nextCursor = none ↔
      ranked.drop (offset + (atOffset ranked limit offset).players.length) = [] := by
  simp only [atOffset, ite_eq_right_iff, reduceCtorEq, imp_false, List.drop_eq_nil_iff,
    List.length_take, List.length_drop]
  omega

end Page

namespace Leaderboard

/-- A page and the cursor that it was read for. -/
structure Visit where
  cursor : Option String
  page : Page

/-- Read a page, and the next ones by the cursor of the page before, until there is none. -/
inductive Walk (store : Store) (limit : Int) : Option String → List Visit → Prop
  | last {cursor : Option String} {page : Page}
    (read : (readPage limit cursor).result store = .ok page) (done : page.nextCursor = none) :
    Walk store limit cursor [⟨cursor, page⟩]
  | more {cursor : Option String} {page : Page} {next : String} {visits : List Visit}
    (read : (readPage limit cursor).result store = .ok page) (goesOn : page.nextCursor = some next)
    (rest : Walk store limit (some next) visits) :
    Walk store limit cursor (⟨cursor, page⟩ :: visits)

theorem Walk.ne_nil {store : Store} {limit : Int} {cursor : Option String} {visits : List Visit}
    (walk : Walk store limit cursor visits) : visits ≠ [] := by
  cases walk <;> exact List.cons_ne_nil _ _

/-- A cursor leads to one walk at most. -/
theorem Walk.unique {store : Store} {limit : Int} {cursor : Option String}
    {visits others : List Visit} (walk : Walk store limit cursor visits)
    (walk' : Walk store limit cursor others) : visits = others := by
  induction walk generalizing others with
  | last read done =>
    cases walk' with
    | last read' done' => rw [Except.ok.inj (read.symm.trans read')]
    | more read' goesOn' rest' =>
      obtain rfl := Except.ok.inj (read.symm.trans read')
      cases done.symm.trans goesOn'
  | more read goesOn rest ih =>
    cases walk' with
    | last read' done' =>
      obtain rfl := Except.ok.inj (read.symm.trans read')
      cases done'.symm.trans goesOn
    | more read' goesOn' rest' =>
      obtain rfl := Except.ok.inj (read.symm.trans read')
      obtain rfl := Option.some.inj (goesOn.symm.trans goesOn')
      rw [ih rest']

section Walking

variable {store : Store} {ranked : List Standing} (built : readRanked.result store = .ok ranked)
  (short : ranked.length < Double.overflowBound) {limit offset : Nat} {cursor : Option String}
  {visits : List Visit}

include built short

/-- With an offset in the cursor, the page that is read is the one at the offset. -/
theorem result_readPage_eq_atOffset (decoded : Cursor.decode cursor = .ok offset) :
    (readPage limit cursor).result store = .ok (Page.atOffset ranked limit offset) := by
  rw [result_readPage built, Page.cut_eq_atOffset short decoded]

theorem page_eq_atOffset (decoded : Cursor.decode cursor = .ok offset) {page : Page}
    (read : (readPage limit cursor).result store = .ok page) :
    page = Page.atOffset ranked limit offset :=
  Except.ok.inj (read.symm.trans (result_readPage_eq_atOffset built short decoded))

/-- From any offset on, a walk with pages that are not empty comes to an end. -/
theorem exists_walk (positive : 0 < limit) (decoded : Cursor.decode cursor = .ok offset) :
    ∃ visits, Walk store limit cursor visits := by
  induction left : ranked.length - offset using Nat.strongRecOn generalizing offset cursor with
  | ind left ih =>
    have read : (readPage limit cursor).result store = .ok (Page.atOffset ranked limit offset) :=
      result_readPage_eq_atOffset built short decoded
    cases next : (Page.atOffset ranked limit offset).nextCursor with
    | none => exact ⟨_, .last read next⟩
    | some next' =>
      obtain ⟨decoded', more⟩ := Page.decode_nextCursor short next
      obtain ⟨visits, rest⟩ := ih _ (by omega) decoded' rfl
      exact ⟨_, .more read next rest⟩

/-- The pages of a walk, put together, are the ranking from the offset on. -/
theorem flatMap_players (walk : Walk store limit cursor visits)
    (decoded : Cursor.decode cursor = .ok offset) :
    (visits.flatMap fun visit => visit.page.players) = ranked.drop offset := by
  induction walk generalizing offset with
  | last read done =>
    obtain rfl := page_eq_atOffset built short decoded read
    have all : (ranked.drop offset).length ≤ limit := by
      have := Page.length_le_of_nextCursor done
      rw [List.length_drop]
      omega
    rw [List.flatMap_singleton, Page.atOffset, List.take_of_length_le all]
  | more read goesOn rest ih =>
    obtain rfl := page_eq_atOffset built short decoded read
    obtain ⟨decoded', -⟩ := Page.decode_nextCursor short goesOn
    rw [List.flatMap_cons, ih decoded', Page.atOffset, ← List.drop_drop, List.take_append_drop]

/-- Every page of a walk but the last is full. -/
theorem length_players_of_mem_dropLast (walk : Walk store limit cursor visits)
    (decoded : Cursor.decode cursor = .ok offset) :
    ∀ visit ∈ visits.dropLast, visit.page.players.length = limit := by
  induction walk generalizing offset with
  | last read done => simp
  | more read goesOn rest ih =>
    obtain rfl := page_eq_atOffset built short decoded read
    obtain ⟨decoded', more⟩ := Page.decode_nextCursor short goesOn
    intro visit member
    rw [List.dropLast_cons_of_ne_nil rest.ne_nil] at member
    rcases List.mem_cons.1 member with rfl | later
    · simp only [Page.atOffset, List.length_take, List.length_drop]
      omega
    · exact ih decoded' visit later

/-- The pages of a walk lie at offsets that are a page's length apart. -/
theorem visit_eq (walk : Walk store limit cursor visits)
    (decoded : Cursor.decode cursor = .ok offset) {place : Nat} {visit : Visit}
    (found : visits[place]? = some visit) :
    Cursor.decode visit.cursor = .ok (offset + place * limit) ∧
      visit.page = Page.atOffset ranked limit (offset + place * limit) := by
  induction walk generalizing offset place with
  | last read done =>
    obtain ⟨rfl, rfl⟩ : place = 0 ∧ _ = visit := by
      simpa [List.getElem?_singleton] using found
    simpa using ⟨decoded, page_eq_atOffset built short decoded read⟩
  | more read goesOn rest ih =>
    cases place with
    | zero =>
      obtain rfl := Option.some.inj found
      simpa using ⟨decoded, page_eq_atOffset built short decoded read⟩
    | succ place =>
      obtain rfl := page_eq_atOffset built short decoded read
      obtain ⟨decoded', -⟩ := Page.decode_nextCursor short goesOn
      have next : offset + (place + 1) * limit = offset + limit + place * limit := by
        rw [Nat.add_mul, Nat.one_mul]
        omega
      rw [next]
      exact ih decoded' found

end Walking

/-- **A walk covers the ranking exactly.** Where the ranking can be rebuilt and has fewer players
than `2 ^ 1000`, a walk by pages of at least one player, from a cursor that holds an offset, comes
to an end, and there is only one. Its pages, put together, are the ranking from the offset on. All
but the last are full, the players of a page have the ranks that follow its offset, and a page has
no cursor exactly if nothing of the ranking is left after its players. -/
theorem walk_covers {store : Store} {ranked : List Standing}
    (built : readRanked.result store = .ok ranked) (short : ranked.length < Nat.pow 2 1000)
    {limit : Int} (positive : 1 ≤ limit) {cursor : Option String} {offset : Nat}
    (decoded : Cursor.decode cursor = .ok offset) :
    ∃ visits, Walk store limit cursor visits ∧
      (∀ others, Walk store limit cursor others → others = visits) ∧
      (visits.flatMap fun visit => visit.page.players) = ranked.drop offset ∧
      (∀ visit ∈ visits.dropLast, (visit.page.players.length : Int) = limit) ∧
      ∀ (place : Nat) visit, visits[place]? = some visit →
        ∃ start : Nat,
          Cursor.decode visit.cursor = .ok start ∧ start = offset + place * limit ∧
          (∀ (index : Nat) line, visit.page.players[index]? = some line →
            line.rank = start + index + 1) ∧
          (visit.page.nextCursor = none ↔
            ranked.drop (start + visit.page.players.length) = []) := by
  have short' : ranked.length < Double.overflowBound :=
    short.trans_le (by decide +kernel)
  obtain ⟨limit, rfl⟩ := Int.eq_ofNat_of_zero_le (by omega : 0 ≤ limit)
  obtain ⟨visits, walk⟩ := exists_walk built short' (by omega : 0 < limit) decoded
  refine ⟨visits, walk, fun others walk' => walk'.unique walk,
    flatMap_players built short' walk decoded, fun visit member => ?_,
    fun place visit found => ?_⟩
  · rw [length_players_of_mem_dropLast built short' walk decoded visit member]
  · obtain ⟨decoded', page⟩ := visit_eq built short' walk decoded found
    refine ⟨offset + place * limit, decoded', by push_cast; rfl, fun index line there => ?_, ?_⟩
    · have ranked_there : ranked[offset + place * limit + index]? = some line := by
        rw [page, Page.atOffset, List.getElem?_take] at there
        rw [← List.getElem?_drop]
        exact (Option.ite_none_right_eq_some.1 there).2
      rw [eq_of_result_readRanked built] at ranked_there
      rw [Roster.rank_of_getElem?_rank ranked_there]
      push_cast
      rfl
    · rw [page]
      exact Page.nextCursor_atOffset_eq_none_iff

/-- A storage with three players of one round. -/
def threeStore : Store where
  rounds := ⟨[[("_id", .text "r"), ("state", .text "RESOLVED"), ("arena_id", .text "a"),
    ("metadata", .record [("playerChoices", .list [.record [("userId", .text "u")],
      .record [("userId", .text "v")], .record [("userId", .text "w")]])])]], none⟩
  eliminations := ⟨[], none⟩
  users := ⟨[[("_id", .text "u"), ("wallet_address", .text "0x1")],
    [("_id", .text "v"), ("wallet_address", .text "0x2")],
    [("_id", .text "w"), ("wallet_address", .text "0x3")]], none⟩
  arenas := ⟨[], none⟩

theorem rankingIn_threeStore :
    rankingIn threeStore =
      [⟨"u", 1, "0x1", 0, 1, 1⟩, ⟨"v", 2, "0x2", 0, 1, 1⟩,
       ⟨"w", 3, "0x3", 0, 1, 1⟩] := by
  have users : usersOf (talliesIn threeStore) = ["u", "v", "w"] := by
    rw [usersOf, List.mergeSort_of_pairwise (by decide +kernel)]
    decide +kernel
  have standings : standingsIn threeStore =
      [⟨"u", 0, "0x1", 0, 1, 1⟩, ⟨"v", 0, "0x2", 0, 1, 1⟩,
       ⟨"w", 0, "0x3", 0, 1, 1⟩] := by
    rw [standingsIn, identitiesIn, users]
    decide +kernel
  rw [rankingIn, standings, Roster.rank, Roster.inOrder, if_pos (by decide +kernel),
    List.mergeSort_of_pairwise (by decide +kernel)]
  rfl

/-- Three players on pages of two, from the start. -/
theorem walk_covers_three :
    ∃ visits, Walk threeStore 2 none visits ∧
      (visits.flatMap fun visit => visit.page.players) =
        [⟨"u", 1, "0x1", 0, 1, 1⟩, ⟨"v", 2, "0x2", 0, 1, 1⟩,
         ⟨"w", 3, "0x3", 0, 1, 1⟩] := by
  have built : readRanked.result threeStore = .ok (rankingIn threeStore) :=
    result_readRanked (by decide) (by decide +kernel)
  rw [rankingIn_threeStore] at built
  obtain ⟨visits, walk, -, covered, -⟩ :=
    walk_covers built (by decide +kernel) (by decide : (1 : Int) ≤ 2)
      (rfl : Cursor.decode none = .ok 0)
  exact ⟨visits, walk, covered⟩

end Leaderboard

end ArenaStandings
