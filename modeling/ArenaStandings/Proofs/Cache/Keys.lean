import ArenaStandings.Cache.Key
import Mathlib.Data.List.Basic

/-!
# Keys do not collide

The key of a page spells its length and its offset, with colons between them; the text of an integer
has no colon, so that the key can be read back. Keys of pages and of figures differ in their first
character, and the pattern of all pages fits exactly the texts that begin as the keys of pages do
(`CacheKey.fits_leaderboardPattern`).
-/

namespace ArenaStandings

namespace Glob

theorem accepts_many (text : List Char) : accepts [.many] text = true := by
  induction text with
  | nil => rw [accepts_many_nil, accepts_nil, List.isEmpty_nil]
  | cons character text ih => rw [accepts_many_cons, ih, Bool.or_true]

/-- Characters and then a star cover the texts that begin with these characters. -/
theorem accepts_ones_many (start text : List Char) :
    accepts (start.map .one ++ [.many]) text = start.isPrefixOf text := by
  induction start generalizing text with
  | nil => exact accepts_many text
  | cons wanted start ih =>
    have single : Piece.one wanted ≠ .many := by simp
    cases text with
    | nil => exact accepts_cons_nil single _
    | cons character text =>
      rw [List.map_cons, List.cons_append, accepts_cons_cons single, ih]
      rfl

end Glob

namespace CacheKey

def leaderboardStart : List Char := leaderboardWord.toList ++ [':']

theorem toList_toString (n : Int) :
    (toString n).toList =
      if 0 ≤ n then Nat.toDigits 10 n.toNat else '-' :: Nat.toDigits 10 (-n).toNat := by
  rw [Int.toString_eq_repr, Int.repr_eq_if]
  split
  · rw [Nat.toList_repr]
  · rw [String.toList_append, Nat.toList_repr]
    rfl

theorem isDigit_of_mem {n : Nat} {character : Char} (member : character ∈ Nat.toDigits 10 n) :
    character.isDigit = true :=
  Nat.isDigit_of_mem_toDigits (by decide) (by decide) member

/-- The text of an integer is made of digits, after a minus sign perhaps. -/
theorem mem_toString_cases {n : Int} {character : Char}
    (member : character ∈ (toString n).toList) :
    character = '-' ∨ character.isDigit = true := by
  rw [toList_toString] at member
  split at member
  · exact .inr (isDigit_of_mem member)
  · exact (List.mem_cons.1 member).imp_right isDigit_of_mem

/-- The text of an integer has no colon. -/
theorem colon_notMem_toString (n : Int) : ':' ∉ (toString n).toList := by
  intro member
  rcases mem_toString_cases member with minus | digit
  · cases minus
  · cases digit

theorem toDigits_injective {m n : Nat} (same : Nat.toDigits 10 m = Nat.toDigits 10 n) : m = n := by
  rw [← Nat.ofDigitChars_ten_toDigits (n := m), same, Nat.ofDigitChars_ten_toDigits]

/-- The text of an integer can be read back. -/
theorem toString_injective {m n : Int} (same : (toString m).toList = (toString n).toList) :
    m = n := by
  have minus : ∀ (k : Nat) (rest : List Char), Nat.toDigits 10 k ≠ '-' :: rest := by
    intro k rest equal
    exact absurd (isDigit_of_mem (equal ▸ List.mem_cons_self)) (by decide)
  rw [toList_toString, toList_toString] at same
  split at same <;> split at same
  · have equal := toDigits_injective same
    omega
  · exact (minus _ _ same).elim
  · exact (minus _ _ same.symm).elim
  · have equal := toDigits_injective (List.cons.inj same).2
    omega

theorem toList_leaderboard (limit offset : Int) :
    (leaderboard limit offset).toList =
      leaderboardStart ++ ((toString limit).toList ++ ':' :: (toString offset).toList) := by
  simp [leaderboard, leaderboardStart, List.append_assoc]

/-- Pages of different lengths or offsets have different keys. -/
theorem leaderboard_inj {limit limit' offset offset' : Int} :
    leaderboard limit offset = leaderboard limit' offset' ↔
      limit = limit' ∧ offset = offset' := by
  constructor
  · intro same
    have texts := congrArg String.toList same
    rw [toList_leaderboard, toList_leaderboard] at texts
    have parts := List.append_cancel_left texts
    rw [List.append_cons_inj_of_notMem (colon_notMem_toString limit)
      (colon_notMem_toString offset)] at parts
    exact ⟨toString_injective parts.1, toString_injective parts.2.2⟩
  · rintro ⟨rfl, rfl⟩
    rfl

theorem arenaStats_inj {id id' : String} : arenaStats id = arenaStats id' ↔ id = id' := by
  rw [arenaStats, arenaStats, String.append_left_inj, String.append_right_inj]

/-- No page has the key of an arena. -/
theorem leaderboard_ne_arenaStats (limit offset : Int) (id : String) :
    leaderboard limit offset ≠ arenaStats id := by
  intro same
  have texts := congrArg String.toList same
  rw [toList_leaderboard, arenaStats, String.toList_append, String.toList_append] at texts
  have first : some 'l' = some 'a' := congrArg List.head? texts
  cases first

/-- The pattern of all pages fits the texts that begin as the keys of pages do. -/
theorem fits_leaderboardPattern (key : String) :
    Glob.fits leaderboardPattern key = leaderboardStart.isPrefixOf key.toList := by
  have pieces : Glob.parse leaderboardPattern.toList = leaderboardStart.map .one ++ [.many] := by
    have spelled : leaderboardPattern.toList =
        ['l', 'e', 'a', 'd', 'e', 'r', 'b', 'o', 'a', 'r', 'd', ':', '*'] := by decide
    rw [spelled]
    simp [Glob.parse, leaderboardStart, leaderboardWord]
  rw [Glob.fits, pieces, Glob.accepts_ones_many]

theorem fits_leaderboard (limit offset : Int) :
    Glob.fits leaderboardPattern (leaderboard limit offset) = true := by
  rw [fits_leaderboardPattern, toList_leaderboard, List.isPrefixOf_iff_prefix]
  exact List.prefix_append _ _

end CacheKey

end ArenaStandings
