import ArenaStandings.Text.Blank
import ArenaStandings.Text.Split
import Mathlib.Data.List.Infix
import Mathlib.Data.List.TakeWhile

/-!
# Pieces of texts

A text that is cut at a mark comes apart into what stands between two marks, where the ends of the
text count as marks (`Split.mem_all_iff`); cut once, into what is before the mark and what is after
it (`Split.first_append`). Trimming a text leaves what is between its blanks (`Blank.trim_eq_iff`).
-/

namespace ArenaStandings

namespace Split

/-- A piece of a text has no mark in it and stands between two marks, once there is a mark at either
end of the text. -/
def IsPiece (mark : Char) (text piece : List Char) : Prop :=
  mark ∉ piece ∧ mark :: piece ++ [mark] <:+: mark :: text ++ [mark]

theorem all_ne_nil (mark : Char) (text : List Char) : all mark text ≠ [] := by
  cases text with
  | nil => exact List.cons_ne_nil _ _
  | cons character text =>
    unfold all
    split
    · exact List.cons_ne_nil _ _
    · split <;> exact List.cons_ne_nil _ _

theorem all_cons (mark : Char) {text first : List Char} {others : List (List Char)}
    (cut : all mark text = first :: others) (character : Char) :
    all mark (character :: text) =
      if character = mark then [] :: first :: others else (character :: first) :: others := by
  rw [all, cut]

theorem all_of_notMem {mark : Char} {text : List Char} (absent : mark ∉ text) :
    all mark text = [text] := by
  induction text with
  | nil => rfl
  | cons character text ih =>
    obtain ⟨differ, rest⟩ := List.ne_and_not_mem_of_not_mem_cons absent
    rw [all_cons mark (ih rest), if_neg (Ne.symm differ)]

/-- A text with a mark in it is cut there. -/
theorem all_append_cons (mark : Char) (before after : List Char) :
    all mark (before ++ mark :: after) = all mark before ++ all mark after := by
  induction before with
  | nil =>
    obtain ⟨first, others, cut⟩ := List.exists_cons_of_ne_nil (all_ne_nil mark after)
    rw [List.nil_append, all_cons mark cut, if_pos rfl, ← cut]
    rfl
  | cons character before ih =>
    obtain ⟨first, others, cut⟩ := List.exists_cons_of_ne_nil (all_ne_nil mark before)
    rw [cut] at ih
    rw [List.cons_append, all_cons mark ih, all_cons mark cut]
    split <;> rfl

/-- The pieces between marks at both ends of a text are those of the text and two empty ones. -/
theorem all_between (mark : Char) (text : List Char) :
    all mark (mark :: text ++ [mark]) = [[]] ++ (all mark text ++ [[]]) := by
  calc all mark (mark :: text ++ [mark]) = all mark ([] ++ mark :: (text ++ mark :: [])) := rfl
    _ = [[]] ++ (all mark text ++ [[]]) := by
      rw [all_append_cons, all_append_cons]
      rfl

/-- With a mark before each of them the pieces make up the text again. -/
theorem flatMap_all (mark : Char) (text : List Char) :
    (all mark text).flatMap (mark :: ·) = mark :: text := by
  induction text with
  | nil => rfl
  | cons character text ih =>
    obtain ⟨first, others, cut⟩ := List.exists_cons_of_ne_nil (all_ne_nil mark text)
    rw [cut, List.flatMap_cons, List.cons_append] at ih
    have rest : first ++ others.flatMap (mark :: ·) = text := List.tail_eq_of_cons_eq ih
    rw [all_cons mark cut]
    split
    · rename_i same
      rw [List.flatMap_cons, List.flatMap_cons, List.cons_append, List.cons_append, rest, same]
      rfl
    · rw [List.flatMap_cons, List.cons_append, List.cons_append, rest]

/-- There is no mark in what a text is cut into. -/
theorem notMem_of_mem_all {mark : Char} {text piece : List Char}
    (member : piece ∈ all mark text) :
    mark ∉ piece := by
  induction text generalizing piece with
  | nil =>
    rw [List.mem_singleton.1 member]
    exact List.not_mem_nil
  | cons character text ih =>
    obtain ⟨first, others, cut⟩ := List.exists_cons_of_ne_nil (all_ne_nil mark text)
    rw [cut] at ih
    rw [all_cons mark cut] at member
    split at member
    · rcases List.mem_cons.1 member with rfl | member
      · exact List.not_mem_nil
      · exact ih member
    · rename_i differ
      rcases List.mem_cons.1 member with rfl | member
      · exact List.not_mem_cons_of_ne_of_not_mem (Ne.symm differ) (ih List.mem_cons_self)
      · exact ih (List.mem_cons_of_mem _ member)

/-- What a text is cut into are its pieces. -/
theorem mem_all_iff {mark : Char} {text piece : List Char} :
    piece ∈ all mark text ↔ IsPiece mark text piece := by
  constructor
  · intro member
    refine ⟨notMem_of_mem_all member, ?_⟩
    obtain ⟨before, after, cut⟩ := List.append_of_mem member
    have following : ∃ rest, after.flatMap (mark :: ·) ++ [mark] = mark :: rest := by
      cases after with
      | nil => exact ⟨[], rfl⟩
      | cons next after => exact ⟨_, rfl⟩
    obtain ⟨rest, following⟩ := following
    have whole := flatMap_all mark text
    rw [cut, List.flatMap_append, List.flatMap_cons] at whole
    refine ⟨before.flatMap (mark :: ·), rest, ?_⟩
    rw [← whole, List.append_assoc, List.append_assoc, List.append_assoc, List.append_assoc,
      following]
    rfl
  · rintro ⟨absent, before, after, whole⟩
    -- Both ends of what is cut are empty pieces on either side of the equation.
    have cut : all mark before ++ ([piece] ++ all mark after) =
        [[]] ++ (all mark text ++ [[]]) := by
      have spelled : before ++ (mark :: piece ++ [mark]) ++ after =
          before ++ mark :: (piece ++ mark :: after) := by simp
      rw [← all_between, ← whole, spelled, all_append_cons, all_append_cons,
        all_of_notMem absent]
    obtain ⟨first, others, left⟩ := List.exists_cons_of_ne_nil (all_ne_nil mark before)
    obtain ⟨inner, last, right⟩ :=
      (List.eq_nil_or_concat (all mark after)).resolve_left (all_ne_nil mark after)
    rw [left, right, List.concat_eq_append, List.cons_append] at cut
    have rest : (others ++ ([piece] ++ inner)) ++ [last] = all mark text ++ [[]] := by
      rw [List.append_assoc, List.append_assoc]
      exact List.tail_eq_of_cons_eq cut
    have pieces : others ++ ([piece] ++ inner) = all mark text := (List.append_inj' rest rfl).1
    rw [← pieces]
    exact List.mem_append_right _ (List.mem_append_left _ (List.mem_singleton.2 rfl))

theorem first_append {mark : Char} {before : List Char} (absent : mark ∉ before)
    (after : List Char) : first mark (before ++ mark :: after) = (before, after) := by
  have kept : ∀ character ∈ before, decide (character ≠ mark) = true := by
    intro character member
    exact decide_eq_true fun same => absent (same ▸ member)
  rw [first, List.takeWhile_append_of_pos kept, List.dropWhile_append_of_pos kept]
  simp

end Split

namespace Blank

variable {blank : Char → Bool} {text core : List Char}

/-- What is left of a text without the blanks at its ends: there are only blanks before it and after
it, and it neither begins nor ends with one. -/
def IsTrimmed (blank : Char → Bool) (text core : List Char) : Prop :=
  (∃ left right, text = left ++ core ++ right ∧
    (∀ character ∈ left, blank character = true) ∧
    ∀ character ∈ right, blank character = true) ∧
  (∀ character ∈ core.head?, blank character = false) ∧
  ∀ character ∈ core.getLast?, blank character = false

/-- What is left when the characters of a set are dropped begins with none of them. -/
theorem head?_dropWhile (blank : Char → Bool) (text : List Char) :
    ∀ character ∈ (text.dropWhile blank).head?, blank character = false := by
  intro character first
  have same := List.head?_dropWhile_not blank text
  rw [first] at same
  simpa using same

theorem dropWhile_of_head? {rest : List Char}
    (stop : ∀ character ∈ core.head?, blank character = false)
    (dropped : ∀ character ∈ rest, blank character = true) :
    (rest ++ core).dropWhile blank = core := by
  rw [List.dropWhile_append_of_pos dropped]
  cases core with
  | nil => rfl
  | cons character core =>
    exact List.dropWhile_cons_of_neg (Bool.eq_false_iff.1 (stop character rfl))

/-- Before what is left by trimming there are only blanks, and after it too. -/
theorem trim_append (blank : Char → Bool) (text : List Char) :
    ∃ right, trim blank text ++ right = text.dropWhile blank ∧
      ∀ character ∈ right, blank character = true := by
  refine ⟨((text.dropWhile blank).reverse.takeWhile blank).reverse, ?_,
    fun character member => ?_⟩
  · rw [trim, ← List.reverse_append, List.takeWhile_append_dropWhile, List.reverse_reverse]
  · exact List.mem_takeWhile_imp (List.mem_reverse.1 member)

/-- Trimming drops the blanks at the ends, and nothing else. -/
theorem trim_eq_iff : trim blank text = core ↔ IsTrimmed blank text core := by
  constructor
  · rintro rfl
    obtain ⟨right, back, after⟩ := trim_append blank text
    have whole : text = text.takeWhile blank ++ trim blank text ++ right := by
      rw [List.append_assoc, back, List.takeWhile_append_dropWhile]
    refine ⟨⟨_, right, whole, fun _ => List.mem_takeWhile_imp, after⟩,
      fun character first => ?_, ?_⟩
    · apply head?_dropWhile blank text
      rw [← back, List.head?_append, Option.mem_def.1 first]
      rfl
    · rw [trim, List.getLast?_reverse]
      exact head?_dropWhile blank _
  · rintro ⟨⟨left, right, rfl, before, after⟩, first, last⟩
    cases core with
    | nil =>
      have nothing : (left ++ [] ++ right).dropWhile blank = [] := by
        rw [List.append_nil, List.dropWhile_eq_nil_iff]
        exact List.forall_mem_append.2 ⟨before, after⟩
      rw [trim, nothing]
      rfl
    | cons character core =>
      have start : (left ++ (character :: core ++ right)).dropWhile blank =
          character :: core ++ right := dropWhile_of_head? first before
      have stop : (right.reverse ++ (character :: core).reverse).dropWhile blank =
          (character :: core).reverse := by
        refine dropWhile_of_head? ?_ fun other member => after other (List.mem_reverse.1 member)
        rw [List.head?_reverse]
        exact last
      rw [trim, List.append_assoc, start, List.reverse_append, stop, List.reverse_reverse]

end Blank

end ArenaStandings
