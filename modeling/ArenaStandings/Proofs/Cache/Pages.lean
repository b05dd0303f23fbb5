import ArenaStandings.Proofs.Cache.Entries
import ArenaStandings.Proofs.Cache.Keys
import Mathlib.Data.List.Nodup

/-!
# The pages among the keys

A key that is made is that of a page or that of the figures of an arena, and never both. The pattern
of all pages is a prefix test, so of the keys that are made it fits those of pages and no other,
whatever the identifiers of arenas are (`CacheKey.fits_iff_isPage`). Hence the pages that a cache
keeps can be listed, each once (`CacheKey.exists_pages`), and removing by the pattern takes away
just these (`Cache.removes_exactly_pages`).
-/

namespace ArenaStandings

namespace CacheKey

/-- The text is the key of a page. -/
def IsPage (key : String) : Prop := ∃ limit offset, key = leaderboard limit offset

/-- The text is the key of the figures of an arena. -/
def IsFigures (key : String) : Prop := ∃ arenaId, key = arenaStats arenaId

variable {key : String} {keys : List String}

/-- The key of a page is made unless one of its integers has too many digits to be written. -/
theorem writeLeaderboard_int (limit offset : Int) :
    writeLeaderboard (.int limit) (.int offset) =
      if Value.intLegible limit && Value.intLegible offset then .ok (leaderboard limit offset)
      else .error .tooManyDigits := by
  have written : ∀ n, write (.int n) =
      if Value.intLegible n then .ok (toString n) else .error .tooManyDigits := fun _ => rfl
  unfold writeLeaderboard
  rw [written, written]
  cases Value.intLegible limit with
  | false => rfl
  | true => cases Value.intLegible offset <;> rfl

/-- The key of the figures of an arena is made whatever its identifier is. -/
theorem writeArenaStats_text (arenaId : String) :
    writeArenaStats (.text arenaId) = .ok (arenaStats arenaId) := rfl

theorem fits_arenaStats (arenaId : String) :
    Glob.fits leaderboardPattern (arenaStats arenaId) = false := by
  have start : leaderboardStart = 'l' :: leaderboardStart.tail := by decide
  have text : (arenaStats arenaId).toList = 'a' :: ("rena:" ++ arenaId ++ ":stats").toList := by
    simp [arenaStats]
  rw [fits_leaderboardPattern, start, text]
  rfl

/-- Of the keys that are made, the pattern fits those of pages. -/
theorem fits_iff_isPage (made : IsPage key ∨ IsFigures key) :
    Glob.fits leaderboardPattern key = true ↔ IsPage key := by
  constructor
  · intro fits
    rcases made with page | ⟨arenaId, rfl⟩
    · exact page
    · rw [fits_arenaStats] at fits
      cases fits
  · intro page
    obtain ⟨limit, offset, rfl⟩ := page
    exact fits_leaderboard limit offset

/-- The pages whose keys the pattern picks out can be listed in the order of the keys. -/
theorem exists_pages (made : ∀ key ∈ keys, IsPage key ∨ IsFigures key) :
    ∃ pages : List (Int × Int),
      pages.map (fun page => leaderboard page.1 page.2) =
        keys.filter (Glob.fits leaderboardPattern) := by
  induction keys with
  | nil => exact ⟨[], rfl⟩
  | cons key keys ih =>
    obtain ⟨pages, listed⟩ := ih fun other member =>
      made other (List.mem_cons_of_mem key member)
    rcases made key List.mem_cons_self with ⟨limit, offset, rfl⟩ | ⟨arenaId, rfl⟩
    · refine ⟨(limit, offset) :: pages, ?_⟩
      rw [List.map_cons, listed, List.filter_cons_of_pos (fits_leaderboard limit offset)]
    · refine ⟨pages, ?_⟩
      rw [listed, List.filter_cons_of_neg (by simp [fits_arenaStats])]

theorem leaderboard_injective :
    Function.Injective fun page : Int × Int => leaderboard page.1 page.2 := by
  intro first second same
  obtain ⟨limits, offsets⟩ := leaderboard_inj.1 same
  exact Prod.ext limits offsets

end CacheKey

namespace Cache

open CacheKey

variable {τ α : Type}

/-- Removing the pages leaves the keys of everything else. -/
theorem mem_keys_invalidateLeaderboard {cache : Cache τ α}
    (made : ∀ key ∈ cache.keys, IsPage key ∨ IsFigures key) (key : String) :
    key ∈ cache.invalidateLeaderboard.2.keys ↔ key ∈ cache.keys ∧ ¬ IsPage key := by
  have unfit : key ∈ cache.keys →
      (Glob.fits leaderboardPattern key = false ↔ ¬ IsPage key) := by
    intro member
    rw [← fits_iff_isPage (made key member), Bool.not_eq_true]
  constructor
  · intro member
    obtain ⟨entry, present⟩ := (Table.mem_keys_iff _).1 member
    obtain ⟨before, outside⟩ := find?_invalidateLeaderboard.1 present
    have kept : key ∈ cache.keys := (Table.mem_keys_iff _).2 ⟨entry, before⟩
    exact ⟨kept, (unfit kept).1 outside⟩
  · intro kept
    obtain ⟨entry, present⟩ := (Table.mem_keys_iff _).1 kept.1
    refine (Table.mem_keys_iff _).2 ⟨entry, ?_⟩
    exact find?_invalidateLeaderboard.2 ⟨present, (unfit kept.1).2 kept.2⟩

/-- Removing the pages leaves the figures of every arena as they are. -/
theorem find?_invalidateLeaderboard_arenaStats (cache : Cache τ α) (arenaId : String) :
    cache.invalidateLeaderboard.2.entries.find? (arenaStats arenaId) =
      cache.entries.find? (arenaStats arenaId) := by
  apply Option.ext
  intro entry
  rw [find?_invalidateLeaderboard, and_iff_left (fits_arenaStats arenaId)]

/-- **Removing pages.** The key of a page is made of two integers unless one of them has too many
digits, and spells both; the key of figures is always made, spells the identifier, and is never that
of a page. So if every key of a cache is one of these, removing the pages removes the keys of pages
and no other, gives the number of the pages that were kept, and leaves the entries of all arenas,
and everything but the entries, as they are. -/
theorem removes_exactly_pages (cache : Cache τ α)
    (made : ∀ key ∈ cache.keys, IsPage key ∨ IsFigures key) :
    (∀ limit offset, writeLeaderboard (.int limit) (.int offset) =
      if Value.intLegible limit && Value.intLegible offset then .ok (leaderboard limit offset)
      else .error .tooManyDigits) ∧
    (∀ arenaId, writeArenaStats (.text arenaId) = .ok (arenaStats arenaId)) ∧
    (∀ limit offset limit' offset',
      leaderboard limit offset = leaderboard limit' offset' ↔
        limit = limit' ∧ offset = offset') ∧
    (∀ arenaId arenaId', arenaStats arenaId = arenaStats arenaId' ↔ arenaId = arenaId') ∧
    (∀ limit offset arenaId, leaderboard limit offset ≠ arenaStats arenaId) ∧
    let removal := cache.invalidateLeaderboard
    (∀ key, key ∈ removal.2.keys ↔ key ∈ cache.keys ∧ ¬ IsPage key) ∧
      (∃ pages : List (Int × Int), pages.Nodup ∧
        (∀ limit offset, (limit, offset) ∈ pages ↔
          leaderboard limit offset ∈ cache.keys) ∧
        removal.1 = pages.length) ∧
      (∀ arenaId, removal.2.entries.find? (arenaStats arenaId) =
        cache.entries.find? (arenaStats arenaId)) ∧
      removal.2 = { cache with entries := removal.2.entries } := by
  refine ⟨writeLeaderboard_int, writeArenaStats_text, fun _ _ _ _ => leaderboard_inj,
    fun _ _ => arenaStats_inj, leaderboard_ne_arenaStats, mem_keys_invalidateLeaderboard made, ?_,
    cache.find?_invalidateLeaderboard_arenaStats, rfl⟩
  obtain ⟨pages, listed⟩ := exists_pages made
  have nodup : (cache.keys.filter (Glob.fits leaderboardPattern)).Nodup :=
    cache.entries.keys_nodup.filter _
  refine ⟨pages, ?_, ?_, ?_⟩
  · rw [← listed] at nodup
    exact List.Nodup.of_map _ nodup
  · intro limit offset
    have member := List.mem_map_of_injective leaderboard_injective
      (a := (limit, offset)) (l := pages)
    rw [listed, List.mem_filter, and_iff_left (fits_leaderboard limit offset)] at member
    exact member.symm
  · exact (congrArg List.length listed).symm.trans (List.length_map _)

/-- Two pages, an arena whose identifier looks like the pattern, and one that holds the key of a
page. -/
def pagesAndArenas : Cache Int String where
  entries := .ofList [(leaderboard 20 0, ⟨some "page", 30⟩),
    (arenaStats "leaderboard:*[\n", ⟨some "odd", 15⟩), (leaderboard 2 (-4), ⟨none, 0⟩),
    (arenaStats (leaderboard 20 0), ⟨some "figures", 15⟩)]
  slots := .empty
  nextLock := 0
  enabled := true
  defaultTtl := 30

/-- Both pages go, the expired one too, and both arenas stay. -/
theorem removes_exactly_pages_among_arenas :
    (∀ key ∈ pagesAndArenas.keys, IsPage key ∨ IsFigures key) ∧
      pagesAndArenas.invalidateLeaderboard.1 = 2 ∧
      pagesAndArenas.invalidateLeaderboard.2.entries.find? (arenaStats "leaderboard:*[\n") =
        some ⟨some "odd", 15⟩ ∧
      leaderboard 20 0 ∉ pagesAndArenas.invalidateLeaderboard.2.keys := by
  have keys : pagesAndArenas.keys = [leaderboard 20 0, arenaStats "leaderboard:*[\n",
      leaderboard 2 (-4), arenaStats (leaderboard 20 0)] := by decide
  have made : ∀ key ∈ pagesAndArenas.keys, IsPage key ∨ IsFigures key := by
    intro key member
    rw [keys] at member
    simp only [List.mem_cons, List.not_mem_nil, or_false] at member
    rcases member with rfl | rfl | rfl | rfl
    · exact .inl ⟨20, 0, rfl⟩
    · exact .inr ⟨"leaderboard:*[\n", rfl⟩
    · exact .inl ⟨2, -4, rfl⟩
    · exact .inr ⟨leaderboard 20 0, rfl⟩
  obtain ⟨-, -, -, -, -, left, -, kept, -⟩ := removes_exactly_pages pagesAndArenas made
  refine ⟨made, by decide +kernel, ?_, ?_⟩
  · rw [kept]
    rfl
  · rw [left]
    exact fun stays => stays.2 ⟨20, 0, rfl⟩

end Cache

end ArenaStandings
