import ArenaStandings.Decimal.Numeral
import Mathlib.Data.List.Basic
import Mathlib.Data.List.TakeWhile

/-!
# Numerals of whole numbers

A row of digits, after a sign perhaps, is taken apart as a whole number
(`Numeral.split?_of_splitSign`), and the number of its digits bounds what it stands for
(`Numeral.natAbs_toInt_lt`).
-/

namespace ArenaStandings

theorem toNat_lt_of_isDigit {character : Char} (digit : character.isDigit = true) :
    character.toNat < 128 :=
  (Char.isDigit_iff_toNat.1 digit).2.trans_lt (by decide)

/-- A number above zero is written without a leading zero. -/
theorem head?_toDigits {n : Nat} (positive : 0 < n) : (Nat.toDigits 10 n).head? ≠ some '0' := by
  have digit : ∀ n < 10, 0 < n → n.digitChar ≠ '0' := by decide
  induction n using Nat.strongRecOn with
  | ind n ih =>
    by_cases small : n < 10
    · rw [Nat.toDigits_of_lt_base small, List.head?_cons, Ne, Option.some.injEq]
      exact digit n small positive
    · rw [Nat.toDigits_of_base_le (by decide) (by omega),
        List.head?_append_of_ne_nil _ Nat.toDigits_ne_nil]
      exact ih (n / 10) (by omega) (by omega)

namespace Numeral

/-! ## The size of a numeral -/

/-- Digits stand for a number below the power of ten with as many zeros. -/
theorem natOfDigits_lt {digits : List Char}
    (numeral : ∀ character ∈ digits, character.isDigit = true) :
    natOfDigits digits < Nat.pow 10 digits.length := by
  unfold natOfDigits
  induction digits with
  | nil => exact Nat.one_pos
  | cons character digits ih =>
    have rest := ih fun other member => numeral other (List.mem_cons_of_mem _ member)
    have digit : character.toNat - '0'.toNat ≤ 9 := by
      have bound := (Char.isDigit_iff_toNat.1 (numeral character List.mem_cons_self)).2
      exact Nat.sub_le_sub_right bound 48
    rw [Nat.ofDigitChars_cons, Nat.ofDigitChars_eq_ofDigitChars_zero, Nat.mul_zero, Nat.zero_add,
      List.length_cons]
    calc
      10 ^ digits.length * (character.toNat - '0'.toNat) + Nat.ofDigitChars 10 digits 0
          < 10 ^ digits.length * (character.toNat - '0'.toNat) + 10 ^ digits.length :=
        Nat.add_lt_add_left rest _
      _ = 10 ^ digits.length * (character.toNat - '0'.toNat + 1) := (Nat.mul_succ ..).symm
      _ ≤ 10 ^ digits.length * 10 := Nat.mul_le_mul_left _ (Nat.succ_le_succ digit)

/-- What stands before the point are digits. -/
theorem isDigit_of_mem_whole {text : List Char} {numeral : Numeral}
    (taken : split? text = some numeral) :
    ∀ character ∈ numeral.whole, character.isDigit = true := by
  unfold split? at taken
  obtain ⟨exponent, -, rfl⟩ := Option.map_eq_some_iff.1 taken
  exact fun character member => List.mem_takeWhile_imp member

/-- An integer of so many digits lies below the power of ten. -/
theorem natAbs_toInt_lt {text : List Char} {numeral : Numeral} (taken : split? text = some numeral)
    {limit : Nat} (few : numeral.whole.length ≤ limit) :
    numeral.toInt.natAbs < Nat.pow 10 limit := by
  have size : numeral.toInt.natAbs = natOfDigits numeral.whole := by
    unfold toInt
    split <;> simp
  rw [size]
  exact (natOfDigits_lt (isDigit_of_mem_whole taken)).trans_le
    (Nat.pow_le_pow_right (Nat.succ_pos 9) few)

/-! ## Rows of digits -/

section Digits

variable {digits : List Char} (numeral : ∀ character ∈ digits, character.isDigit = true)

include numeral

theorem splitSign_digits : splitSign digits = (none, digits) := by
  unfold splitSign
  split
  · cases numeral '-' List.mem_cons_self
  · cases numeral '+' List.mem_cons_self
  · rfl

/-- A row of digits is a whole number and nothing else, with a sign or without. -/
theorem split?_of_splitSign {text : List Char} {sign : Option Char}
    (signed : splitSign text = (sign, digits)) :
    split? text = some ⟨sign, digits, none, none⟩ := by
  have whole : splitDigits digits = (digits, []) := by
    rw [splitDigits, List.takeWhile_eq_self_iff.2 numeral, List.dropWhile_eq_nil_iff.2 numeral]
  rw [split?, signed]
  dsimp only
  rw [whole]
  rfl

end Digits

end Numeral

end ArenaStandings
