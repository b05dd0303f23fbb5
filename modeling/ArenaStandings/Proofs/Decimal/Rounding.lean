import ArenaStandings.Proofs.Decimal.Exact
import Mathlib.Algebra.Order.Field.Basic
import Mathlib.Algebra.Order.Ring.Abs
import Mathlib.Algebra.Ring.Parity
import Mathlib.Tactic.Linarith
import Mathlib.Tactic.Ring

/-!
# Rounding to fifty-three bits

A long mantissa is cut short bit by bit, and two further bits remember on which side of the half the
rest lies (`Double.CutOf`). So the mantissa that is left is nearest to the number that was cut, and
even if that lies at a half (`Double.CutOf.isNearest`). On the scale of the power of two at which
the cut is made, all other numbers of fifty-three bits are whole or small; so what a number is
rounded to (`Double.exists_roundWithAccuracy`) is closest to it among them all
(`Double.RoundedTo.isClosest`).
-/

namespace ArenaStandings

namespace Double

open Float.Model UnpackedFloat

/-! ## Mantissas that are cut short -/

/-- A number and the mantissa that is left when bits are cut off it: the two further bits tell apart
whether the number lies at the mantissa, at the half above it, or in one of the gaps between. -/
inductive CutOf (q : ℚ) : ExtendedMantissa → Prop
  | whole {m : Nat} (equal : q = m) : CutOf q ⟨m, false, false⟩
  | belowHalf {m : Nat} (above : m < q) (below : q < m + 1 / 2) : CutOf q ⟨m, false, true⟩
  | half {m : Nat} (equal : q = m + 1 / 2) : CutOf q ⟨m, true, false⟩
  | aboveHalf {m : Nat} (above : m + 1 / 2 < q) (below : q < m + 1) : CutOf q ⟨m, true, true⟩

section Cut

variable {q : ℚ} {cut : ExtendedMantissa}

theorem shiftRightOne_two_mul (m : Nat) (round sticky : Bool) :
    (ExtendedMantissa.mk (2 * m) round sticky).shiftRightOne = ⟨m, false, round || sticky⟩ := by
  simp [ExtendedMantissa.shiftRightOne]

theorem shiftRightOne_two_mul_add_one (m : Nat) (round sticky : Bool) :
    (ExtendedMantissa.mk (2 * m + 1) round sticky).shiftRightOne =
      ⟨m, true, round || sticky⟩ := by
  have half : (2 * m + 1) / 2 = m := by omega
  simp [ExtendedMantissa.shiftRightOne, half]

/-- One more bit is cut off. -/
theorem CutOf.shiftRightOne (is : CutOf q cut) : CutOf (q / 2) cut.shiftRightOne := by
  obtain ⟨m, round, sticky⟩ := cut
  obtain ⟨m, rfl | rfl⟩ := Nat.even_or_odd' m
  · rw [shiftRightOne_two_mul]
    cases is with
    | whole equal => exact .whole (by push_cast at equal; linarith)
    | belowHalf above below =>
      push_cast at above below
      exact .belowHalf (by linarith) (by linarith)
    | half equal =>
      push_cast at equal
      exact .belowHalf (by linarith) (by linarith)
    | aboveHalf above below =>
      push_cast at above below
      exact .belowHalf (by linarith) (by linarith)
  · rw [shiftRightOne_two_mul_add_one]
    cases is with
    | whole equal => exact .half (by push_cast at equal; linarith)
    | belowHalf above below =>
      push_cast at above below
      exact .aboveHalf (by linarith) (by linarith)
    | half equal =>
      push_cast at equal
      exact .aboveHalf (by linarith) (by linarith)
    | aboveHalf above below =>
      push_cast at above below
      exact .aboveHalf (by linarith) (by linarith)

theorem CutOf.shiftRight (is : CutOf q cut) (count : Nat) :
    CutOf (q / 2 ^ count) (cut >>> count) := by
  change CutOf _ (count.repeat ExtendedMantissa.shiftRightOne cut)
  induction count with
  | zero =>
    rw [pow_zero, div_one]
    exact is
  | succ count ih =>
    rw [pow_succ, ← div_div]
    exact ih.shiftRightOne

/-- The whole number nearest to a number, and of two that are equally near the even one. -/
structure IsNearest (q : ℚ) (n : Nat) : Prop where
  near : |(n : ℚ) - q| ≤ 1 / 2
  even : |(n : ℚ) - q| = 1 / 2 → Even n

theorem CutOf.isNearest (is : CutOf q cut) : IsNearest q cut.roundedMantissa := by
  cases is with
  | @whole m equal =>
    change IsNearest q m
    have zero : |(m : ℚ) - q| = 0 := by rw [equal, sub_self, abs_zero]
    exact ⟨by linarith, fun half => by linarith⟩
  | @belowHalf m above below =>
    change IsNearest q m
    have gap : |(m : ℚ) - q| < 1 / 2 := abs_lt.2 ⟨by linarith, by linarith⟩
    exact ⟨gap.le, fun half => (gap.ne half).elim⟩
  | @half m equal =>
    change IsNearest q (m + m % 2)
    rcases Nat.even_or_odd m with even | odd
    · rw [Nat.even_iff.1 even, add_zero]
      have gap : |(m : ℚ) - q| = 1 / 2 := by
        rw [equal, sub_add_cancel_left, abs_neg, abs_of_pos (by norm_num)]
      exact ⟨gap.le, fun _ => even⟩
    · rw [Nat.odd_iff.1 odd]
      have gap : |((m + 1 : Nat) : ℚ) - q| = 1 / 2 := by
        rw [equal, abs_of_pos] <;> push_cast <;> linarith
      exact ⟨gap.le, fun _ => odd.add_one⟩
  | @aboveHalf m above below =>
    change IsNearest q (m + 1)
    have gap : |((m + 1 : Nat) : ℚ) - q| < 1 / 2 := by
      push_cast
      exact abs_lt.2 ⟨by linarith, by linarith⟩
    exact ⟨gap.le, fun half => (gap.ne half).elim⟩

namespace IsNearest

variable {n : Nat} (nearest : IsNearest q n)

include nearest

/-- Any other whole number lies at least half away. -/
theorem half_le {other : ℤ} (different : other ≠ n) : 1 / 2 ≤ |(other : ℚ) - q| := by
  have apart : (1 : ℚ) ≤ |(other : ℚ) - n| := by
    have distance : 1 ≤ |other - (n : ℤ)| := Int.one_le_abs (sub_ne_zero.2 different)
    exact_mod_cast distance
  have triangle := abs_sub_le (other : ℚ) q n
  have near := nearest.near
  rw [abs_sub_comm] at near
  linarith

theorem le (other : ℤ) : |(n : ℚ) - q| ≤ |(other : ℚ) - q| := by
  by_cases same : other = n
  · rw [same, Int.cast_natCast]
  · exact nearest.near.trans (nearest.half_le same)

theorem even_of_eq {other : ℤ} (different : other ≠ n)
    (equal : |(n : ℚ) - q| = |(other : ℚ) - q|) : Even n :=
  nearest.even (le_antisymm nearest.near (equal ▸ nearest.half_le different))

/-- Rounding passes over no whole number. -/
theorem ge_of_le {other : Nat} (below : other ≤ q) : other ≤ n := by
  by_contra less
  have step : (n : ℚ) + 1 ≤ other := by exact_mod_cast Nat.lt_of_not_le less
  have near := abs_le.1 nearest.near
  linarith

theorem le_of_le {other : Nat} (above : q ≤ other) : n ≤ other := by
  by_contra greater
  have step : (other : ℚ) + 1 ≤ n := by exact_mod_cast Nat.lt_of_not_le greater
  have near := abs_le.1 nearest.near
  linarith

end IsNearest

end Cut

/-- What a number that is not small is nearest to has no small scale. -/
theorem IsNearest.le_scale {q : ℚ} {n : Nat} {scale : Int} (nearest : IsNearest (q / 2 ^ scale) n)
    (narrow : n ≤ 2 ^ 53) (large : 1 ≤ q) : -54 < scale := by
  have power : (0 : ℚ) < 2 ^ scale := zpow_pos two_pos scale
  have near := (abs_le.1 nearest.near).1
  have bound : (n : ℚ) ≤ 2 ^ 53 := by exact_mod_cast narrow
  have scaled : q / 2 ^ scale < 2 ^ 54 := by linarith
  rw [div_lt_iff₀ power] at scaled
  have above : (2 : ℚ) ^ (0 : ℤ) < 2 ^ ((54 : ℕ) + scale : ℤ) := by
    rw [zpow_add₀ two_ne_zero, zpow_natCast, zpow_zero]
    exact large.trans_lt scaled
  have := (zpow_lt_zpow_iff_right₀ one_lt_two).1 above
  omega

/-! ## Rounding to fifty-three bits -/

/-- The mantissa of fifty-three bits and the exponent that a number is rounded to. When rounding
goes up to the next power of two, the last bit is dropped. -/
inductive RoundedTo (q : ℚ) : Nat → Int → Prop
  | kept {mantissa : Nat} {exponent : Int} (nearest : IsNearest (q / 2 ^ exponent) mantissa)
      (high : 2 ^ 52 ≤ q / 2 ^ exponent) (full : 2 ^ 52 ≤ mantissa)
      (narrow : mantissa < 2 ^ 53) : RoundedTo q mantissa exponent
  | carried {exponent : Int} (nearest : IsNearest (q / 2 ^ exponent) (2 ^ 53))
      (high : 2 ^ 52 ≤ q / 2 ^ exponent) : RoundedTo q (2 ^ 52) (exponent + 1)

section Rounding

variable {mantissa : Nat} {exponent : Int}

/-- A mantissa that is long enough is cut down to fifty-three bits. -/
theorem shiftToTargetExponent_eq (long : 52 ≤ mantissa.log2)
    (large : 0 ≤ mantissa.log2 + exponent) :
    shiftToTargetExponent .binary64 mantissa exponent .exact =
      (ExtendedMantissa.mk mantissa false false >>> (mantissa.log2 - 52),
        exponent + (mantissa.log2 - 52 : Nat)) := by
  have target : Format.binary64.targetExponent (totalExponent mantissa exponent) =
      max (mantissa.log2 + 1 + exponent - 53) (-1074) := rfl
  have amount : (Format.binary64.targetExponent (totalExponent mantissa exponent) -
      exponent).toNat = mantissa.log2 - 52 := by
    rw [target]
    omega
  unfold shiftToTargetExponent shiftToExponent
  dsimp only
  rw [amount]
  rfl

theorem le_log2_add (value : 1 ≤ (mantissa : ℚ) * 2 ^ exponent) :
    0 ≤ mantissa.log2 + exponent := by
  have power : (0 : ℚ) < 2 ^ exponent := zpow_pos two_pos exponent
  have below : (mantissa : ℚ) < 2 ^ (mantissa.log2 + 1) := by exact_mod_cast Nat.lt_log2_self
  have above : (2 : ℚ) ^ (0 : ℤ) < 2 ^ ((mantissa.log2 + 1 : ℕ) + exponent : ℤ) := by
    rw [zpow_add₀ two_ne_zero, zpow_natCast, zpow_zero]
    exact value.trans_lt (mul_lt_mul_of_pos_right below power)
  have := (zpow_lt_zpow_iff_right₀ one_lt_two).1 above
  omega

/-- A long mantissa lies between two powers of two when it is cut down to fifty-three bits. -/
theorem div_shift_mem (long : 52 ≤ mantissa.log2) :
    (2 : ℚ) ^ 52 ≤ mantissa / 2 ^ (mantissa.log2 - 52) ∧
      (mantissa : ℚ) / 2 ^ (mantissa.log2 - 52) ≤ 2 ^ 53 := by
  have bits : 52 + (mantissa.log2 - 52) = mantissa.log2 := by omega
  have bits' : 53 + (mantissa.log2 - 52) = mantissa.log2 + 1 := by omega
  have power : (0 : ℚ) < 2 ^ (mantissa.log2 - 52) := pow_pos two_pos _
  have nonzero : mantissa ≠ 0 := by
    rintro rfl
    simp at long
  rw [le_div_iff₀ power, div_le_iff₀ power, ← pow_add, ← pow_add, bits, bits']
  exact ⟨by exact_mod_cast Nat.log2_self_le nonzero, by exact_mod_cast Nat.lt_log2_self.le⟩

theorem shiftToTargetExponent_of_full (full : 2 ^ 52 ≤ mantissa) (narrow : mantissa < 2 ^ 53)
    (large : 0 ≤ 52 + exponent) :
    shiftToTargetExponent .binary64 mantissa exponent .exact =
      (⟨mantissa, false, false⟩, exponent) := by
  have nonzero : mantissa ≠ 0 := by omega
  have bits : mantissa.log2 = 52 := (Nat.log2_eq_iff nonzero).2 ⟨full, narrow⟩
  rw [shiftToTargetExponent_eq (by omega) (by omega), bits]
  exact congrArg (Prod.mk _) (Int.add_zero exponent)

theorem shiftToTargetExponent_of_carry (large : 0 ≤ 52 + exponent) :
    shiftToTargetExponent .binary64 (2 ^ 53) exponent .exact =
      (⟨2 ^ 52, false, false⟩, exponent + 1) := by
  have bits : (2 ^ 53 : Nat).log2 = 53 := Nat.log2_two_pow
  rw [shiftToTargetExponent_eq (by omega) (by omega), bits]
  rfl

/-- **What the library rounds to** is a mantissa of fifty-three bits and an exponent to which the
number is rounded. -/
theorem exists_roundWithAccuracy (sign : UnpackedFloat.Sign) (long : 52 ≤ mantissa.log2)
    (large : 1 ≤ (mantissa : ℚ) * 2 ^ exponent) :
    ∃ rounded level, ∃ positive : 0 < rounded,
      roundWithAccuracy .binary64 sign mantissa exponent .exact =
        .finite sign rounded level positive ∧
      RoundedTo (mantissa * 2 ^ exponent) rounded level := by
  have bits := le_log2_add large
  set lost := mantissa.log2 - 52 with lost_def
  set cut := ExtendedMantissa.mk mantissa false false >>> lost with cut_def
  have scaled : (mantissa : ℚ) * 2 ^ exponent / 2 ^ (exponent + lost) = mantissa / 2 ^ lost := by
    rw [zpow_add₀ two_ne_zero, zpow_natCast, mul_comm,
      mul_div_mul_left _ _ (zpow_pos two_pos exponent).ne']
  have nearest : IsNearest ((mantissa : ℚ) * 2 ^ exponent / 2 ^ (exponent + lost))
      cut.roundedMantissa := by
    rw [scaled]
    exact ((CutOf.whole rfl).shiftRight lost).isNearest
  obtain ⟨high, low⟩ := div_shift_mem long
  rw [← lost_def, ← scaled] at high low
  have full : 2 ^ 52 ≤ cut.roundedMantissa := nearest.ge_of_le (by exact_mod_cast high)
  have narrow : cut.roundedMantissa ≤ 2 ^ 53 := nearest.le_of_le (by exact_mod_cast low)
  unfold roundWithAccuracy
  rw [shiftToTargetExponent_eq long bits, ← lost_def, ← cut_def]
  dsimp only
  rcases narrow.lt_or_eq with narrow | carry
  · rw [shiftToTargetExponent_of_full full narrow (by omega)]
    have positive : 0 < cut.roundedMantissa := by omega
    exact ⟨_, _, positive, dif_neg positive.ne', .kept nearest high full narrow⟩
  · rw [carry] at nearest
    rw [carry, shiftToTargetExponent_of_carry (by omega)]
    have positive : 0 < 2 ^ 52 := Nat.two_pow_pos 52
    exact ⟨2 ^ 52, _, positive, dif_neg positive.ne', .carried nearest high⟩

end Rounding

/-! ## Nothing is nearer -/

/-- A number for which fifty-three bits suffice: a finite double, but for the greatest exponent. -/
def HasBits (number : ℚ) : Prop :=
  ∃ negative mantissa exponent,
    mantissa < Nat.pow 2 53 ∧ -1074 ≤ exponent ∧ valueOf negative mantissa exponent = number

theorem HasBits.neg {number : ℚ} (bits : HasBits number) : HasBits (-number) := by
  obtain ⟨negative, mantissa, exponent, narrow, least, rfl⟩ := bits
  refine ⟨!negative, mantissa, exponent, narrow, least, ?_⟩
  cases negative with
  | false => exact valueOf_negative mantissa exponent
  | true =>
    rw [valueOf_negative, neg_neg]
    rfl

/-- Of the numbers with fifty-three bits, those beyond the doubles included, none is nearer to a
number than this one with its mantissa, and none is as near unless the mantissa is even. -/
def IsClosest (q value : ℚ) (mantissa : Nat) : Prop :=
  ∀ number, HasBits number →
    |value - q| ≤ |number - q| ∧
      (number ≠ value → |number - q| = |value - q| → Even mantissa)

theorem IsClosest.neg {q value : ℚ} {mantissa : Nat} (closest : IsClosest q value mantissa) :
    IsClosest (-q) (-value) mantissa := by
  intro number bits
  have mirrored (a b : ℚ) : |-a - -b| = |a - b| := by rw [neg_sub_neg, abs_sub_comm]
  obtain ⟨near, even⟩ := closest (-number) bits.neg
  rw [← mirrored value q, ← mirrored (-number) q, neg_neg] at near even
  refine ⟨near, fun different => even fun same => different ?_⟩
  rw [← same, neg_neg]

/-- On the scale of a power of two, such numbers are whole or have at most fifty-two bits before the
point. -/
theorem HasBits.div {number : ℚ} (bits : HasBits number) (scale : Int) :
    (∃ whole : ℤ, number / 2 ^ scale = whole) ∨ |number / 2 ^ scale| < 2 ^ 52 := by
  obtain ⟨negative, mantissa, exponent, narrow, -, rfl⟩ := bits
  have size : |valueOf negative mantissa exponent / 2 ^ scale| =
      mantissa * 2 ^ (exponent - scale) := by
    have magnitude : |valueOf negative mantissa exponent| = mantissa * 2 ^ exponent := by
      have nonnegative : (0 : ℚ) ≤ mantissa * 2 ^ exponent :=
        mul_nonneg mantissa.cast_nonneg (zpow_pos two_pos exponent).le
      cases negative with
      | false => rw [valueOf_false, abs_of_nonneg nonnegative]
      | true => rw [valueOf_negative, abs_neg, valueOf_false, abs_of_nonneg nonnegative]
    rw [abs_div, magnitude, abs_of_pos (zpow_pos two_pos scale), mul_div_assoc,
      ← zpow_sub₀ two_ne_zero]
  rcases Int.lt_or_le exponent scale with less | greater
  · right
    have narrow : (mantissa : ℚ) < 2 ^ 53 := by exact_mod_cast narrow
    have down : (2 : ℚ) ^ (exponent - scale) ≤ 2 ^ (-1 : ℤ) :=
      zpow_le_zpow_right₀ one_le_two (by omega)
    calc |valueOf negative mantissa exponent / 2 ^ scale|
      _ = mantissa * 2 ^ (exponent - scale) := size
      _ ≤ mantissa * 2 ^ (-1 : ℤ) := mul_le_mul_of_nonneg_left down mantissa.cast_nonneg
      _ < 2 ^ 53 * 2 ^ (-1 : ℤ) := mul_lt_mul_of_pos_right narrow (zpow_pos two_pos _)
      _ = 2 ^ 52 := by norm_num
  · left
    obtain ⟨up, rfl⟩ := Int.le.dest greater
    refine ⟨(if negative then -(mantissa : Int) else mantissa) * 2 ^ up, ?_⟩
    rw [valueOf, zpow_add₀ two_ne_zero, zpow_natCast, mul_div_assoc,
      mul_div_cancel_left₀ _ (zpow_pos two_pos scale).ne']
    push_cast
    rfl

/-- Among the whole numbers and what lies below a bound, nothing comes nearer to a number that
reaches the bound. -/
theorem IsNearest.le_of_grid {q : ℚ} {n bound : Nat} (nearest : IsNearest q n)
    (reached : bound ≤ q) {number : ℚ}
    (grid : (∃ whole : ℤ, number = whole) ∨ |number| < bound) :
    |(n : ℚ) - q| ≤ |number - q| ∧
      (number ≠ n → |number - q| = |(n : ℚ) - q| → Even n) := by
  rcases grid with ⟨whole, rfl⟩ | small
  · refine ⟨nearest.le whole, fun different equal => nearest.even_of_eq ?_ equal.symm⟩
    rintro rfl
    exact different (Int.cast_natCast n)
  · have near := nearest.le bound
    rw [Int.cast_natCast, abs_sub_comm _ q, abs_sub_comm _ q, abs_of_nonneg (sub_nonneg.2 reached)]
      at near
    have farther : |q - n| < |q - number| := by
      have above : number < bound := (le_abs_self number).trans_lt small
      exact near.trans_lt ((sub_lt_sub_left above q).trans_le (le_abs_self _))
    rw [abs_sub_comm _ q, abs_sub_comm number q]
    exact ⟨farther.le, fun _ equal => (farther.ne' equal).elim⟩

theorem abs_sub_eq_scaled (number q : ℚ) (scale : Int) :
    |number - q| = 2 ^ scale * |number / 2 ^ scale - q / 2 ^ scale| := by
  have power : (0 : ℚ) < 2 ^ scale := zpow_pos two_pos scale
  rw [← sub_div, abs_div, abs_of_pos power, mul_div_cancel₀ _ power.ne']

/-- What is nearest on a scale is nearest of all. -/
theorem IsNearest.le_of_hasBits {q : ℚ} {n : Nat} {scale : Int}
    (nearest : IsNearest (q / 2 ^ scale) n) (high : 2 ^ 52 ≤ q / 2 ^ scale) {number : ℚ}
    (bits : HasBits number) :
    |n * 2 ^ scale - q| ≤ |number - q| ∧
      (number ≠ n * 2 ^ scale → |number - q| = |n * 2 ^ scale - q| → Even n) := by
  have power : (0 : ℚ) < 2 ^ scale := zpow_pos two_pos scale
  rw [← cast_two_pow] at high
  have grid := bits.div scale
  rw [← cast_two_pow 52] at grid
  obtain ⟨near, even⟩ := nearest.le_of_grid high grid
  rw [abs_sub_eq_scaled _ q scale, abs_sub_eq_scaled number q scale,
    mul_div_cancel_right₀ _ power.ne']
  refine ⟨mul_le_mul_of_nonneg_left near power.le, fun different equal => ?_⟩
  refine even (fun same => different ?_) (mul_left_cancel₀ power.ne' equal)
  rw [← same, div_mul_cancel₀ _ power.ne']

theorem two_pow_mul_succ (exponent : Int) :
    ((2 ^ 52 : Nat) : ℚ) * 2 ^ (exponent + 1) = (2 ^ 53 : Nat) * 2 ^ exponent := by
  rw [zpow_add_one₀ two_ne_zero]
  push_cast
  ring

/-- The bound lies halfway from the largest double to the next power of two. The greatest exponent
of a double is given by an equation, for as a numeral it would have the power computed. -/
theorem cast_overflowBound {top : Nat} (greatest : top = 971) :
    (overflowBound : ℚ) = (2 ^ 53 - 1 / 2) * 2 ^ top := by
  have doubled : overflowBound * 2 + Nat.pow 2 top = 2 ^ 54 * Nat.pow 2 top := by
    subst greatest
    decide +kernel
  have cast : (overflowBound : ℚ) * 2 + 2 ^ top = 2 ^ 54 * 2 ^ top := by
    rw [← cast_two_pow top]
    exact_mod_cast doubled
  linarith

namespace RoundedTo

variable {q : ℚ} {mantissa : Nat} {exponent : Int} (rounded : RoundedTo q mantissa exponent)

include rounded

theorem full : 2 ^ 52 ≤ mantissa ∧ mantissa < 2 ^ 53 := by
  cases rounded with
  | kept _ _ full narrow => exact ⟨full, narrow⟩
  | carried => decide

/-- **Nothing is nearer** to a number than what it is rounded to. -/
theorem isClosest : IsClosest q (valueOf false mantissa exponent) mantissa := by
  intro number bits
  rw [valueOf_false]
  cases rounded with
  | kept nearest high => exact nearest.le_of_hasBits high bits
  | carried nearest high =>
    rw [two_pow_mul_succ]
    exact ⟨(nearest.le_of_hasBits high bits).1, fun _ _ => by decide⟩

/-- A whole number of at most fifty-three bits is not changed. -/
theorem value_eq {n : Nat} (whole : q = n) (small : n < 2 ^ 53) :
    (mantissa : ℚ) * 2 ^ exponent = q := by
  have exact_of_nearest {m : Nat} {scale : Int} (nearest : IsNearest (q / 2 ^ scale) m)
      (high : 2 ^ 52 ≤ q / 2 ^ scale) : (m : ℚ) * 2 ^ scale = q := by
    have power : (0 : ℚ) < 2 ^ scale := zpow_pos two_pos scale
    have fine : scale ≤ 0 := by
      have low : (2 : ℚ) ^ 52 * 2 ^ scale ≤ n := by rwa [whole, le_div_iff₀ power] at high
      have bound : (n : ℚ) < 2 ^ 53 := by exact_mod_cast small
      have scaled : (2 : ℚ) ^ scale < 2 ^ (1 : ℤ) := by
        rw [zpow_one]
        linarith
      exact Int.lt_add_one_iff.1 ((zpow_lt_zpow_iff_right₀ one_lt_two).1 scaled)
    obtain ⟨down, rfl⟩ := Int.exists_eq_neg_ofNat fine
    have same : q / 2 ^ (-(down : ℤ)) = ((n * 2 ^ down : ℤ) : ℚ) := by
      rw [whole, zpow_neg, div_inv_eq_mul, zpow_natCast]
      push_cast
      rfl
    have near := nearest.le (n * 2 ^ down)
    rw [← same, sub_self, abs_zero] at near
    rw [sub_eq_zero.1 (abs_nonpos_iff.1 near), div_mul_cancel₀ _ power.ne']
  cases rounded with
  | kept nearest high => exact exact_of_nearest nearest high
  | carried nearest high => rw [two_pow_mul_succ, exact_of_nearest nearest high]

/-- What is too small to be rounded up beyond the doubles has an exponent in their range. -/
theorem exponent_le {n : Nat} (whole : q = n) (fits : n < overflowBound) : exponent ≤ 971 := by
  obtain ⟨top, greatest⟩ : ∃ top : Nat, top = 971 := ⟨_, rfl⟩
  have below : q < (2 ^ 53 - 1 / 2) * 2 ^ top := by
    rw [whole, ← cast_overflowBound greatest]
    exact Nat.cast_lt.2 fits
  have unit : (0 : ℚ) < 2 ^ top := pow_pos two_pos top
  by_contra beyond
  cases rounded with
  | kept nearest high =>
    have power : (0 : ℚ) < 2 ^ exponent := zpow_pos two_pos exponent
    have scale : (2 : ℚ) ^ ((top : ℤ) + 1) ≤ 2 ^ exponent :=
      zpow_le_zpow_right₀ one_le_two (by omega)
    rw [le_div_iff₀ power] at high
    rw [zpow_add_one₀ two_ne_zero, zpow_natCast] at scale
    linarith
  | @carried exponent nearest high =>
    have power : (0 : ℚ) < 2 ^ exponent := zpow_pos two_pos exponent
    have scale : (2 : ℚ) ^ (top : ℤ) ≤ 2 ^ exponent :=
      zpow_le_zpow_right₀ one_le_two (by omega)
    have near := (abs_le.1 nearest.near).2
    have reached : (2 ^ 53 - 1 / 2) * 2 ^ exponent ≤ q := by
      rw [← le_div_iff₀ power]
      push_cast at near
      linarith
    rw [zpow_natCast] at scale
    linarith

theorem le_exponent (large : 1 ≤ q) : -1074 ≤ exponent := by
  cases rounded with
  | kept nearest _ _ narrow =>
    have := nearest.le_scale narrow.le large
    omega
  | carried nearest =>
    have := nearest.le_scale le_rfl large
    omega

end RoundedTo

end Double

end ArenaStandings
