import ArenaStandings.Leaderboard.Rebuild
import ArenaStandings.Proofs.Store.Reading

/-!
# Pages

A page is cut from the ranking (`Leaderboard.result_readPage`), and what is cut can be said without
the steps of cutting: with an offset in the cursor, it is the standings from there on, as many as
asked for, and a cursor to the offset after them if the ranking goes on (`Page.cut_eq`).
-/

namespace ArenaStandings

namespace Page

/-- The page at an offset, if the cursor after it can be written. -/
theorem cut_eq {ranked : List Standing} {limit : Int} {cursor : Option String} {offset : Nat}
    (decoded : Cursor.decode cursor = .ok offset)
    (writable : offset + limit < ranked.length → Value.intLegible (offset + limit) = true) :
    cut ranked limit cursor =
      .ok ⟨stretch ranked offset (offset + limit),
        if offset + limit < ranked.length then some (Cursor.encode (offset + limit))
        else none⟩ := by
  rw [cut, decoded]
  by_cases more : (offset + limit : Int) < ranked.length
  · rw [if_pos more]
    simp only [bind, Except.bind, if_pos more, Cursor.write_int, writable more]
    rfl
  · rw [if_neg more]
    simp only [bind, Except.bind, if_neg more]
    rfl

end Page

namespace Leaderboard

/-- A page is cut from the ranking. -/
theorem result_readPage {store : Store} {ranked : List Standing}
    (built : readRanked.result store = .ok ranked) (limit : Int) (cursor : Option String) :
    (readPage limit cursor).result store = Page.cut ranked limit cursor := by
  rw [readPage, Read.result_bind_of_eq_ok built]
  cases Page.cut ranked limit cursor <;> rfl

end Leaderboard

end ArenaStandings
