import ArenaStandings.Json.Reader
import ArenaStandings.Proofs.Cache.Keys
import ArenaStandings.Proofs.Decimal.Numerals

/-!
# Integers are atoms

The text of an integer is one atom, for no character of it ends an atom
(`Json.boundary?_of_mem_toString`), and the atom stands for the integer (`Json.atom?_toString`)
unless it has more digits than can be read.
-/

namespace ArenaStandings

namespace Json

/-- The characters of an integer do not end an atom. -/
theorem boundary?_of_mem_toString {n : Int} {character : Char}
    (member : character ∈ (toString n).toList) : boundary? character = none := by
  rcases CacheKey.mem_toString_cases member with rfl | digit
  · rfl
  · unfold boundary?
    split <;> first | rfl | cases digit

/-- An atom with a digit in it is no word. -/
theorem atom?_of_mem_digit {spelling : List Char} {character : Char}
    (member : character ∈ spelling) (digit : character.isDigit = true) (limit : Option Nat) :
    atom? limit spelling = number? limit spelling := by
  have noWord : ∀ word : String, word.toList.any Char.isDigit = false →
      spelling ≠ word.toList := by
    rintro word letters rfl
    rw [List.any_eq_true.2 ⟨character, member, digit⟩] at letters
    cases letters
  rw [atom?, if_neg (noWord _ rfl), if_neg (noWord _ rfl), if_neg (noWord _ rfl),
    if_neg (noWord _ rfl), if_neg (noWord _ rfl), if_neg (noWord _ rfl)]

/-- The digits of a number stand for the number, with a minus sign for its negative. -/
theorem number?_of_splitSign {spelling : List Char} {sign : Option Char} {limit n : Nat}
    (signed : Numeral.splitSign spelling = (sign, Nat.toDigits 10 n)) (noPlus : sign ≠ some '+')
    (positive : 0 < limit) (fits : n < Nat.pow 10 limit) :
    number? (some limit) spelling = some (.int (if sign == some '-' then -(n : Int) else n)) := by
  have digits : ∀ character ∈ Nat.toDigits 10 n, character.isDigit = true := fun _ =>
    CacheKey.isDigit_of_mem
  have nonempty : Nat.toDigits 10 n ≠ [] := Nat.toDigits_ne_nil
  have short : ¬ limit < (Nat.toDigits 10 n).length :=
    Nat.not_lt.2 ((Nat.length_toDigits_le_iff (by decide) positive).2 fits)
  have proper : ((Nat.toDigits 10 n).length == 1 || (Nat.toDigits 10 n).head? != some '0') =
      true := by
    rcases Nat.eq_zero_or_pos n with rfl | positive
    · rfl
    · rw [bne_iff_ne.2 (head?_toDigits positive), Bool.or_true]
  rw [number?, Numeral.split?_of_splitSign digits signed, Option.bind_some]
  simp [proper, short, nonempty, noPlus, Numeral.isInteger, Numeral.toInt, Numeral.isNegative,
    Numeral.natOfDigits, Nat.ofDigitChars_ten_toDigits]

/-- The text of an integer is an atom that stands for the integer. -/
theorem atom?_toString {limit : Nat} {n : Int} (positive : 0 < limit)
    (fits : n.natAbs < Nat.pow 10 limit) :
    atom? (some limit) (toString n).toList = some (.int n) := by
  obtain ⟨digit, member⟩ :=
    List.exists_mem_of_ne_nil (Nat.toDigits 10 n.natAbs) Nat.toDigits_ne_nil
  have numeral : digit.isDigit = true := CacheKey.isDigit_of_mem member
  rw [CacheKey.toList_toString]
  split
  · rename_i nonnegative
    have signed := Numeral.splitSign_digits fun _ => CacheKey.isDigit_of_mem (n := n.natAbs)
    have read := number?_of_splitSign signed (by decide) positive fits
    have whole : n.toNat = n.natAbs := by omega
    have same : (n.natAbs : Int) = n := Int.natAbs_of_nonneg nonnegative
    rw [whole, atom?_of_mem_digit member numeral, read, if_neg (by decide), same]
  · rename_i negative
    have signed : Numeral.splitSign ('-' :: Nat.toDigits 10 n.natAbs) =
      (some '-', Nat.toDigits 10 n.natAbs) := rfl
    have read := number?_of_splitSign signed (by decide) positive fits
    have whole : (-n).toNat = n.natAbs := by omega
    have same : -(n.natAbs : Int) = n := by omega
    rw [whole, atom?_of_mem_digit (List.mem_cons_of_mem _ member) numeral, read,
      if_pos (by decide), same]

end Json

end ArenaStandings
