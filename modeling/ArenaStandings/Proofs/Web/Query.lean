import ArenaStandings.Proofs.Text.Pieces
import ArenaStandings.Proofs.Text.Utf8
import ArenaStandings.Web.Target

/-!
# Plain parameters

Unreserved characters mean themselves in a query: a parameter whose name and value are made of them
is read as it was written (`Target.parameter?_of_unreserved`).
-/

namespace ArenaStandings

namespace Percent

/-- Letters and digits are ASCII. -/
theorem isAlphanum_lt {character : Char} (alphanumeric : character.isAlphanum = true) :
    character.toNat < 128 := by
  change (decide (character.val ≥ 'A'.val ∧ character.val ≤ 'Z'.val) ||
    decide (character.val ≥ 'a'.val) && decide (character.val ≤ 'z'.val) ||
    decide (character.val ≥ '0'.val) && decide (character.val ≤ '9'.val)) = true at alphanumeric
  change character.val.toNat < 128
  simp only [Bool.or_eq_true, Bool.and_eq_true, decide_eq_true_eq, UInt32.le_iff_toNat_le]
    at alphanumeric
  rcases alphanumeric with (⟨-, upper⟩ | ⟨-, lower⟩) | ⟨-, digit⟩
  · exact Nat.lt_of_le_of_lt upper (by decide)
  · exact Nat.lt_of_le_of_lt lower (by decide)
  · exact Nat.lt_of_le_of_lt digit (by decide)

/-- An unreserved character is ASCII. -/
theorem isUnreserved_lt {character : Char} (unreserved : isUnreserved character = true) :
    character.toNat < 128 := by
  simp only [isUnreserved, Bool.or_eq_true, beq_iff_eq] at unreserved
  rcases unreserved with (((alphanumeric | rfl) | rfl) | rfl) | rfl
  · exact isAlphanum_lt alphanumeric
  all_goals decide

theorem ne_of_isUnreserved {character mark : Char} (unreserved : isUnreserved character = true)
    (reserved : isUnreserved mark = false) : character ≠ mark := by
  rintro rfl
  rw [unreserved] at reserved
  cases reserved

/-- A text without a percent sign spells its own octets. -/
theorem decodeOctets_of_notMem {text : List Char} (plain : '%' ∉ text) :
    decodeOctets text = Utf8.encode text := by
  induction text with
  | nil => rw [decodeOctets]; rfl
  | cons character text ih =>
    obtain ⟨differ, rest⟩ := List.ne_and_not_mem_of_not_mem_cons plain
    rw [decodeOctets, ih rest]
    · rfl
    · rintro high low tail rfl
      exact absurd rfl differ

end Percent

namespace Target

/-- Unreserved characters mean themselves. -/
theorem decodeParameter_of_unreserved {text : List Char}
    (plain : ∀ character ∈ text, Percent.isUnreserved character = true) :
    decodeParameter text = .ofList text := by
  have spaced : text.map (fun character => if character = '+' then ' ' else character) = text := by
    calc text.map (fun character => if character = '+' then ' ' else character)
        = text.map id := List.map_congr_left fun character member =>
          if_neg (Percent.ne_of_isUnreserved (plain character member) rfl)
      _ = text := List.map_id text
  have percent : '%' ∉ text := fun member =>
    Percent.ne_of_isUnreserved (plain '%' member) rfl rfl
  rw [decodeParameter, spaced, Percent.decode, Percent.decodeOctets_of_notMem percent,
    Utf8.decodeLossy_encode fun character member =>
      Percent.isUnreserved_lt (plain character member)]

/-- **A parameter of unreserved characters is read as it was written.** -/
theorem parameter?_of_unreserved {name value : List Char}
    (named : ∀ character ∈ name, Percent.isUnreserved character = true)
    (plain : ∀ character ∈ value, Percent.isUnreserved character = true) (path : List Char) :
    (Target.mk path (name ++ '=' :: value)).parameter? (.ofList name) = some (.ofList value) := by
  have whole : '&' ∉ name ++ '=' :: value := by
    intro member
    rcases List.mem_append.1 member with inName | inRest
    · exact Percent.ne_of_isUnreserved (named '&' inName) rfl rfl
    · rcases List.mem_cons.1 inRest with equal | inValue
      · cases equal
      · exact Percent.ne_of_isUnreserved (plain '&' inValue) rfl rfl
  have mark : '=' ∉ name := fun member =>
    Percent.ne_of_isUnreserved (named '=' member) rfl rfl
  have nonempty : [name ++ '=' :: value].filter (· ≠ []) = [name ++ '=' :: value] := by simp
  have read : (Target.mk path (name ++ '=' :: value)).parameters =
      [(String.ofList name, String.ofList value)] := by
    rw [parameters, Split.all_of_notMem whole, nonempty, List.map_singleton,
      Split.first_append mark]
    dsimp only
    rw [decodeParameter_of_unreserved named, decodeParameter_of_unreserved plain]
  rw [parameter?, read]
  simp

end Target

end ArenaStandings
