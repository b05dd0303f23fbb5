import ArenaStandings.Proofs.Decimal.Rounding

/-!
# Integers as doubles

An integer rounds to a finite double if the double has its sign and is closest to it
(`Double.Rounds`). An integer below `Double.overflowBound` rounds to the double that it is converted
to (`Double.rounds_ofInt`), from beyond the bound there is no such double (`Double.fits_of_rounds`),
and there are never two (`Double.Rounds.unique`). So the conversion of integers is this relation
(`Double.rounds_iff`).

A short integer is converted as a machine word and multiplied by one; a long integer is given bits
to spare and is rounded once; a negative one is rounded as its magnitude is.
-/

namespace ArenaStandings

namespace Double

open Float.Model UnpackedFloat

/-! ## Packing -/

theorem unpackSign_packComponents {format : Format} (sign : UnpackedFloat.Sign)
    (exponent : BitVec format.exponentBits)
    (mantissa : BitVec format.mantissaBitsWithoutImplicit) :
    UnpackedFloat.Sign.ofBitVec (unpackSign (packComponents format sign exponent mantissa)) =
      sign := by
  have bit : unpackSign (packComponents format sign exponent mantissa) = sign.toBitVec := by
    apply BitVec.eq_of_getLsbD_eq
    intro i inside
    obtain rfl : i = 0 := by omega
    change (BitVec.cast _ (BitVec.extractLsb
      (format.mantissaBitsWithoutImplicit + format.exponentBits)
      (format.mantissaBitsWithoutImplicit + format.exponentBits)
      (sign.toBitVec ++ exponent ++ mantissa))).getLsbD 0 = _
    simp [BitVec.getLsbD_append, BitVec.getElem_append]
  rw [bit]
  cases sign <;> rfl

theorem finite_congr {sign sign' : UnpackedFloat.Sign} {mantissa mantissa' : Nat}
    {exponent exponent' : Int} {positive : 0 < mantissa} {positive' : 0 < mantissa'}
    (signs : sign = sign') (mantissas : mantissa = mantissa') (exponents : exponent = exponent') :
    UnpackedFloat.finite sign mantissa exponent positive =
      .finite sign' mantissa' exponent' positive' := by
  subst signs mantissas exponents
  rfl

/-- A mantissa of fifty-three bits with an exponent in the range of the doubles is packed as it
is. -/
theorem unpack_pack (sign : UnpackedFloat.Sign) {mantissa : Nat} {exponent : Int}
    (positive : 0 < mantissa) (full : 2 ^ 52 ≤ mantissa) (narrow : mantissa < 2 ^ 53)
    (least : -1074 ≤ exponent) (greatest : exponent ≤ 971) :
    UnpackedFloat.unpack .binary64
        (UnpackedFloat.pack .binary64 (.finite sign mantissa exponent positive)) =
      .finite sign mantissa exponent positive := by
  have bits : mantissa.log2 + 1 = Format.binary64.mantissaBits := by
    have log : mantissa.log2 = 52 := (Nat.log2_eq_iff positive.ne').2 ⟨full, narrow⟩
    rw [log]
    rfl
  obtain ⟨biased, rfl⟩ : ∃ biased : Nat, exponent = biased - 1075 :=
    ⟨(exponent + 1075).toNat, by omega⟩
  have code : ((biased - 1075 : Int) + Format.binary64.exponentBias +
      Format.binary64.mantissaBitsWithoutImplicit).toNat = biased := by
    change ((biased - 1075 : Int) + (1023 : Nat) + (52 : Nat)).toNat = biased
    omega
  have codeFits : (BitVec.ofNat 11 biased).toNat = biased := by
    rw [BitVec.toNat_ofNat]
    omega
  have proper : BitVec.ofNat 11 biased ≠ -1#11 := by
    intro same
    have : biased = 2047 := codeFits.symm.trans (congrArg BitVec.toNat same)
    omega
  have normal : BitVec.ofNat 11 biased ≠ 0#11 := by
    intro same
    have : biased = 0 := codeFits.symm.trans (congrArg BitVec.toNat same)
    omega
  have whole : (1#1 ++ BitVec.ofNat 52 mantissa).toNat = mantissa := by
    have rest : mantissa % 2 ^ 52 < 2 ^ 52 := Nat.mod_lt _ (Nat.two_pow_pos 52)
    rw [BitVec.toNat_append, BitVec.toNat_ofNat]
    refine (Nat.two_pow_add_eq_or_of_lt rest 1).symm.trans ?_
    omega
  have packed : UnpackedFloat.pack .binary64 (.finite sign mantissa (biased - 1075) positive) =
      packComponents .binary64 sign (BitVec.ofNat 11 biased) (BitVec.ofNat 52 mantissa) := by
    unfold UnpackedFloat.pack
    dsimp only
    rw [code, if_neg (by omega), if_pos bits]
  have written : unpackExponent (packComponents .binary64 sign (BitVec.ofNat 11 biased)
      (BitVec.ofNat 52 mantissa)) = BitVec.ofNat 11 biased := unpackExponent_packComponents
  rw [packed]
  unfold UnpackedFloat.unpack
  dsimp only
  rw [if_neg (by rw [written]; exact proper), if_neg (by rw [written]; exact normal)]
  apply finite_congr (unpackSign_packComponents ..)
  · rw [unpackMantissa_packComponents]
    exact whole
  · rw [written, codeFits]
    rfl

/-! ## Integers -/

/-- The double that an integer rounds to: it is finite, has the sign of the integer and is closest
to it. -/
def Rounds (n : ℤ) (x : Float) : Prop :=
  ∃ mantissa exponent, shape x = .finite (decide (n < 0)) mantissa exponent ∧
    IsClosest n (valueOf (decide (n < 0)) mantissa exponent) mantissa

theorem Rounds.isFinite {n : ℤ} {x : Float} (rounds : Rounds n x) : x.isFinite = true := by
  obtain ⟨mantissa, exponent, shape, -⟩ := rounds
  rw [shape_eq] at shape
  change x.toModel.unpack.isFinite = true
  generalize x.toModel.unpack = u at shape
  cases u with
  | notANumber | infinity => cases shape
  | zero | finite => rfl

/-- Numbers are rounded as their magnitudes are. -/
theorem isClosest_natAbs_iff {n : ℤ} {mantissa : Nat} {exponent : Int} :
    IsClosest n (valueOf (decide (n < 0)) mantissa exponent) mantissa ↔
      IsClosest n.natAbs (valueOf false mantissa exponent) mantissa := by
  rcases Int.lt_or_le n 0 with negative | nonnegative
  · have magnitude : (n : ℚ) = -(n.natAbs : ℚ) := by
      rw [Nat.cast_natAbs, abs_of_neg negative, Int.cast_neg, neg_neg]
    rw [decide_eq_true negative, valueOf_negative, magnitude]
    refine ⟨fun closest => ?_, IsClosest.neg⟩
    have mirrored := closest.neg
    rwa [neg_neg, neg_neg] at mirrored
  · have magnitude : (n : ℚ) = n.natAbs := by
      rw [Nat.cast_natAbs, abs_of_nonneg nonnegative]
    rw [decide_eq_false (Int.not_lt.2 nonnegative), magnitude]

/-- A long whole number is given bits to spare and is rounded once. -/
theorem ofNat_of_long {n : Nat} (long : 2 ^ 53 ≤ n) :
    Float.ofNat n = .ofModel (.pack
      (roundWithAccuracy .binary64 .positive (n * 2 ^ 53) (-53) .exact)) := by
  have fast : ¬ (n < 2 ^ 53 ∧ 0 ≤ 22) := fun small => Nat.not_lt.2 long small.1
  have nonzero : n ≠ 0 := by omega
  have model : UnpackedFloat.ofScientific .binary64 n (0 : Nat) =
      roundWithAccuracy .binary64 (.positive * .positive) (n <<< 53 * 10 ^ 0) (-53 + 0) .exact := by
    have few : ¬ ((0 : Nat) : Int) < -((2 ^ 11 : Int) + n.log2) := by omega
    unfold UnpackedFloat.ofScientific
    rw [dif_neg nonzero, if_neg (by decide), if_neg few, if_pos (by decide)]
    rfl
  change Float.ofScientific n false 0 = _
  unfold Float.ofScientific
  rw [dif_neg fast]
  change Float.ofModel (.pack (UnpackedFloat.ofScientific .binary64 n (0 : Nat))) = _
  rw [model, Nat.shiftLeft_eq, pow_zero, mul_one]
  rfl

/-- A short whole number is rounded as it is, and multiplied by one. -/
theorem ofNat_of_short {n : Nat} (short : n < 2 ^ 53) :
    Float.ofNat n = n.toUInt64.toFloat * .ofBits 0x3FF0000000000000 := by
  have fast : n < 2 ^ 53 ∧ 0 ≤ 22 := ⟨short, by decide⟩
  change Float.ofScientific n false 0 = _
  unfold Float.ofScientific
  rw [dif_pos fast]
  rfl

theorem unpack_one : (Float.ofBits 0x3FF0000000000000).toModel.unpack =
    .finite .positive (2 ^ 52) (-52) (Nat.two_pow_pos 52) := rfl

theorem normalize_natCast {n : Nat} (positive : 0 < n) :
    UnpackedFloat.normalize .binary64 n 0 .positive =
      UnpackedFloat.round .binary64 .positive n 0 := by
  have order : compare (n : Int) 0 = .gt := compare_gt_iff_gt.2 (Int.natCast_pos.2 positive)
  unfold UnpackedFloat.normalize
  rw [order, Int.toNat_natCast]

/-- A short whole number is lengthened to fifty-three bits before it is rounded. -/
theorem round_of_short {n missing : Nat} (known : missing + n.log2 = 52) :
    UnpackedFloat.round .binary64 .positive n 0 =
      roundWithAccuracy .binary64 .positive (n <<< missing) (0 - missing) .exact := by
  have target : Format.binary64.targetExponent (totalExponent n 0) =
      max ((n.log2 : Int) + 1 + 0 - 53) (-1074) := rfl
  have amount : (0 - Format.binary64.targetExponent (totalExponent n 0)).toNat = missing := by
    rw [target]
    omega
  unfold UnpackedFloat.round decreaseExponent
  dsimp only
  rw [amount]

/-- What a short whole number is lengthened to is long, and stands for the same number. -/
theorem shiftLeft_of_short {n missing : Nat} (positive : 0 < n) (known : missing + n.log2 = 52) :
    52 ≤ (n <<< missing).log2 ∧
      ((n <<< missing : Nat) : ℚ) * 2 ^ (0 - (missing : ℤ)) = n := by
  constructor
  · have full : 2 ^ 52 ≤ n <<< missing := by
      rw [Nat.shiftLeft_eq, ← known, pow_add, mul_comm]
      exact Nat.mul_le_mul_right _ (Nat.log2_self_le positive.ne')
    exact (Nat.le_log2 (by omega)).2 full
  · rw [Nat.shiftLeft_eq, zero_sub, zpow_neg, zpow_natCast]
    push_cast
    exact mul_inv_cancel_right₀ (pow_ne_zero _ two_ne_zero) _

/-- A short whole number becomes a double that stands for it. -/
theorem exists_unpack_toFloat {n : Nat} (positive : 0 < n) (short : n < 2 ^ 53) :
    ∃ mantissa exponent, ∃ something : 0 < mantissa, 2 ^ 52 ≤ mantissa ∧
      n.toUInt64.toFloat.toModel.unpack = .finite .positive mantissa exponent something ∧
      (mantissa : ℚ) * 2 ^ exponent = n := by
  have bits : n.log2 ≤ 52 := Nat.lt_succ_iff.1 ((Nat.log2_lt positive.ne').2 short)
  have large : (1 : ℚ) ≤ n := by exact_mod_cast positive
  obtain ⟨missing, known⟩ : ∃ missing, missing + n.log2 = 52 := ⟨52 - n.log2, by omega⟩
  obtain ⟨long, value⟩ := shiftLeft_of_short positive known
  obtain ⟨mantissa, exponent, something, rounds, rounded⟩ :=
    exists_roundWithAccuracy .positive long (value ▸ large)
  rw [value] at rounded
  have fits : n < overflowBound := short.trans_le (by decide +kernel)
  have word : n.toUInt64.toNat = n := Nat.mod_eq_of_lt (by omega)
  have model : UnpackedFloat.ofUInt64 .binary64 n.toUInt64 =
      .finite .positive mantissa exponent something := by
    rw [← rounds, ← round_of_short known, ← normalize_natCast positive]
    change UnpackedFloat.normalize .binary64 (n.toUInt64.toNat : Int) 0 .positive = _
    rw [word]
  refine ⟨mantissa, exponent, something, rounded.full.1, ?_, rounded.value_eq rfl short⟩
  change UnpackedFloat.unpack .binary64
    (UnpackedFloat.pack .binary64 (UnpackedFloat.ofUInt64 .binary64 n.toUInt64)) = _
  rw [model]
  exact unpack_pack .positive something rounded.full.1 rounded.full.2
    (rounded.le_exponent large) (rounded.exponent_le rfl fits)

/-- What a whole number becomes is rounded once, whether the number is long or short. -/
theorem exists_ofNat {n : Nat} (positive : 0 < n) :
    ∃ (mantissa : Nat) (exponent : Int),
      52 ≤ mantissa.log2 ∧ (mantissa : ℚ) * 2 ^ exponent = n ∧
      Float.ofNat n = .ofModel (.pack
        (roundWithAccuracy .binary64 .positive mantissa exponent .exact)) := by
  rcases Nat.lt_or_ge n (2 ^ 53) with short | long
  · obtain ⟨mantissa, exponent, something, full, unpacked, value⟩ :=
      exists_unpack_toFloat positive short
    have bits : 52 ≤ (mantissa * 2 ^ 52).log2 := by
      have larger : 2 ^ 52 ≤ mantissa * 2 ^ 52 := by omega
      exact (Nat.le_log2 (by omega)).2 larger
    refine ⟨mantissa * 2 ^ 52, exponent + -52, bits, ?_, ?_⟩
    · rw [← value, zpow_add₀ two_ne_zero]
      push_cast
      ring
    · have product : n.toUInt64.toFloat * .ofBits 0x3FF0000000000000 = .ofModel (.pack
          (UnpackedFloat.mul .binary64 n.toUInt64.toFloat.toModel.unpack
            (Float.ofBits 0x3FF0000000000000).toModel.unpack)) := rfl
      rw [ofNat_of_short short, product, unpacked, unpack_one]
      rfl
  · have bits : 52 ≤ (n * 2 ^ 53).log2 := by
      have larger : 2 ^ 52 ≤ n * 2 ^ 53 := by omega
      exact (Nat.le_log2 (by omega)).2 larger
    refine ⟨n * 2 ^ 53, -53, bits, ?_, ofNat_of_long long⟩
    push_cast
    ring

/-- The double of a whole number below the bound. -/
theorem exists_unpack_ofNat {n : Nat} (positive : 0 < n) (fits : n < overflowBound) :
    ∃ mantissa exponent, ∃ something : 0 < mantissa,
      (Float.ofNat n).toModel.unpack = .finite .positive mantissa exponent something ∧
      RoundedTo n mantissa exponent ∧ -1074 ≤ exponent ∧ exponent ≤ 971 := by
  have large : (1 : ℚ) ≤ n := by exact_mod_cast positive
  obtain ⟨long, scale, bits, value, made⟩ := exists_ofNat positive
  obtain ⟨mantissa, exponent, something, rounds, rounded⟩ :=
    exists_roundWithAccuracy .positive bits (value ▸ large)
  rw [value] at rounded
  have least := rounded.le_exponent large
  have greatest := rounded.exponent_le rfl fits
  refine ⟨mantissa, exponent, something, ?_, rounded, least, greatest⟩
  rw [made, rounds]
  exact unpack_pack .positive something rounded.full.1 rounded.full.2 least greatest

/-- Integers below the bound are rounded to doubles. -/
theorem rounds_ofInt {n : ℤ} (fits : n.natAbs < overflowBound) : Rounds n (.ofInt n) := by
  unfold Rounds
  simp only [isClosest_natAbs_iff]
  cases n with
  | ofNat n =>
    have sign : decide (Int.ofNat n < 0) = false :=
      decide_eq_false (Int.not_lt.2 (Int.natCast_nonneg n))
    rcases Nat.eq_zero_or_pos n with rfl | positive
    · refine ⟨0, -1074, rfl, fun number _ => ⟨?_, fun _ _ => Even.zero⟩⟩
      rw [valueOf_zero]
      simp
    · obtain ⟨mantissa, exponent, something, unpacked, rounded, -⟩ :=
        exists_unpack_ofNat positive fits
      refine ⟨mantissa, exponent, ?_, rounded.isClosest⟩
      rw [shape_eq, sign]
      exact congrArg shapeOf unpacked
  | negSucc n =>
    have sign : decide (Int.negSucc n < 0) = true := decide_eq_true (Int.negSucc_lt_zero n)
    obtain ⟨mantissa, exponent, something, unpacked, rounded, least, greatest⟩ :=
      exists_unpack_ofNat n.succ_pos fits
    refine ⟨mantissa, exponent, ?_, rounded.isClosest⟩
    have negated : (Float.ofInt (.negSucc n)).toModel.unpack = UnpackedFloat.unpack .binary64
        (UnpackedFloat.pack .binary64 (Float.ofNat (n + 1)).toModel.unpack.neg) := rfl
    rw [shape_eq, sign, negated, unpacked]
    exact congrArg shapeOf
      (unpack_pack .negative something rounded.full.1 rounded.full.2 least greatest)

section Largest

variable {mantissa : Nat} {exponent : Int} {top : Nat} (greatest : top = 971)

include greatest

/-- With the greatest exponent a mantissa stands for no less. -/
theorem Normal.value_le (normal : Normal mantissa exponent) :
    (mantissa : ℚ) * 2 ^ exponent ≤ mantissa * 2 ^ top := by
  have := normal.greatest
  rw [← zpow_natCast]
  exact mul_le_mul_of_nonneg_left (zpow_le_zpow_right₀ one_le_two (by omega)) mantissa.cast_nonneg

/-- A mantissa that reaches the largest double is odd, for it has all its bits. -/
theorem Normal.odd_of_largest_le (normal : Normal mantissa exponent)
    (large : (2 ^ 53 - 1) * 2 ^ top ≤ (mantissa : ℚ) * 2 ^ exponent) : Odd mantissa := by
  have unit : (0 : ℚ) < 2 ^ top := pow_pos two_pos top
  have full : (2 : ℚ) ^ 53 - 1 ≤ mantissa :=
    le_of_mul_le_mul_right (large.trans (normal.value_le greatest)) unit
  have all : (2 : ℚ) ^ 53 ≤ (mantissa + 1 : Nat) := by
    push_cast
    linarith
  have all : 2 ^ 53 ≤ mantissa + 1 := by exact_mod_cast all
  have narrow : mantissa < 2 ^ 53 := normal.narrow
  exact Nat.odd_iff.2 (by omega)

theorem Normal.value_le_largest (normal : Normal mantissa exponent) :
    (mantissa : ℚ) * 2 ^ exponent ≤ (2 ^ 53 - 1) * 2 ^ top := by
  have short : (mantissa : ℚ) ≤ 2 ^ 53 - 1 := by
    have narrow : (mantissa : ℚ) + 1 ≤ 2 ^ 53 := by exact_mod_cast normal.narrow
    linarith
  exact (normal.value_le greatest).trans (mul_le_mul_of_nonneg_right short (pow_pos two_pos top).le)

end Largest

/-- The first power of two beyond the doubles has fifty-three bits, though it is none of them. -/
theorem hasBits_two_pow_mul (top : Nat) : HasBits (2 ^ 53 * 2 ^ top) := by
  refine ⟨false, 2 ^ 52, top + 1, by decide, by omega, ?_⟩
  rw [valueOf_false, two_pow_mul_succ, zpow_natCast]
  push_cast
  rfl

/-- From beyond the bound no double is rounded to. The next power of two, which is no double, is at
least as near as the largest, whose mantissa is odd. -/
theorem fits_of_rounds {n : ℤ} {x : Float} (rounds : Rounds n x) : n.natAbs < overflowBound := by
  obtain ⟨mantissa, exponent, shape, closest⟩ := rounds
  rw [isClosest_natAbs_iff, valueOf_false] at closest
  have normal := normal_of_shape shape
  obtain ⟨top, greatest⟩ : ∃ top : Nat, top = 971 := ⟨_, rfl⟩
  have unit : (0 : ℚ) < 2 ^ top := pow_pos two_pos top
  obtain ⟨near, even⟩ := closest _ (hasBits_two_pow_mul top)
  by_contra beyond
  have bound : (2 ^ 53 - 1 / 2) * 2 ^ top ≤ (n.natAbs : ℚ) := by
    rw [← cast_overflowBound greatest]
    exact Nat.cast_le.2 (Nat.not_lt.1 beyond)
  have largest := normal.value_le_largest greatest
  have odd := normal.odd_of_largest_le greatest
  generalize (n.natAbs : ℚ) = magnitude at *
  generalize (mantissa : ℚ) * 2 ^ exponent = value at *
  rw [abs_of_neg (by linarith : value - magnitude < 0)] at near even
  rcases le_or_gt (2 ^ 53 * 2 ^ top) magnitude with above | below
  · rw [abs_of_nonpos (by linarith)] at near
    linarith
  · rw [abs_of_pos (by linarith)] at near even
    exact Nat.not_even_iff_odd.2 (odd (by linarith)) (even (by linarith) (by linarith))

/-! ## One double only -/

section Unique

variable {q : ℚ} {mantissa mantissa' : Nat} {exponent exponent' : Int}

/-- Of two even mantissas, that of the smaller double is followed by one that is still smaller than
the other. -/
theorem valueOf_succ_lt (normal : Normal mantissa exponent) (normal' : Normal mantissa' exponent')
    (even : Even mantissa) (even' : Even mantissa')
    (less : valueOf false mantissa exponent < valueOf false mantissa' exponent') :
    valueOf false (mantissa + 1) exponent < valueOf false mantissa' exponent' := by
  have order : exponent ≤ exponent' := by
    by_contra greater
    exact less.asymm (valueOf_lt_valueOf normal' normal (not_le.1 greater))
  obtain ⟨up, rfl⟩ := Int.le.dest order
  have power : (0 : ℚ) < 2 ^ exponent := zpow_pos two_pos exponent
  have scaled : valueOf false mantissa' (exponent + up) =
      (mantissa' * 2 ^ up : Nat) * 2 ^ exponent := by
    rw [valueOf_false, zpow_add₀ two_ne_zero, zpow_natCast]
    push_cast
    ring
  rw [scaled, valueOf_false] at less ⊢
  have smaller : mantissa < mantissa' * 2 ^ up := by
    exact_mod_cast lt_of_mul_lt_mul_right less power.le
  have different : mantissa + 1 ≠ mantissa' * 2 ^ up := by
    intro same
    exact Nat.not_even_iff_odd.2 even.add_one (same ▸ even'.mul_right (2 ^ up))
  exact mul_lt_mul_of_pos_right (Nat.cast_lt.2 (by omega)) power

/-- Two doubles cannot both be closest: their mantissas would be even, and a double between them
closer. -/
theorem IsClosest.not_lt (normal : Normal mantissa exponent) (normal' : Normal mantissa' exponent')
    (closest : IsClosest q (valueOf false mantissa exponent) mantissa)
    (closest' : IsClosest q (valueOf false mantissa' exponent') mantissa') :
    ¬ valueOf false mantissa exponent < valueOf false mantissa' exponent' := by
  intro less
  obtain ⟨near, even⟩ :=
    closest _ ⟨false, mantissa', exponent', normal'.narrow, normal'.least, rfl⟩
  obtain ⟨near', even'⟩ :=
    closest' _ ⟨false, mantissa, exponent, normal.narrow, normal.least, rfl⟩
  have same := near.antisymm near'
  have isEven := even less.ne' same.symm
  have between := valueOf_succ_lt normal normal' isEven (even' less.ne same) less
  have narrow : mantissa + 1 < Nat.pow 2 53 := by
    have bound : mantissa < 2 ^ 53 := normal.narrow
    change mantissa + 1 < 2 ^ 53
    have := Nat.even_iff.1 isEven
    omega
  have above : valueOf false mantissa exponent < valueOf false (mantissa + 1) exponent := by
    rw [valueOf_false, valueOf_false]
    exact mul_lt_mul_of_pos_right (Nat.cast_lt.2 mantissa.lt_succ_self) (zpow_pos two_pos exponent)
  have closer := (closest _ ⟨false, mantissa + 1, exponent, narrow, normal.least, rfl⟩).1
  generalize valueOf false mantissa exponent = value at *
  generalize valueOf false mantissa' exponent' = value' at *
  generalize valueOf false (mantissa + 1) exponent = next at *
  rcases abs_eq_abs.1 same with equal | opposite
  · linarith
  · have middle : |value - q| = q - value := by rw [abs_of_neg (by linarith), neg_sub]
    have inside : |next - q| < q - value := abs_lt.2 ⟨by linarith, by linarith⟩
    linarith

/-- Doubles of one sign that stand for the same number have the same parts. -/
theorem eq_of_valueOf_eq (normal : Normal mantissa exponent) (normal' : Normal mantissa' exponent')
    (same : valueOf false mantissa exponent = valueOf false mantissa' exponent') :
    mantissa = mantissa' ∧ exponent = exponent' := by
  have order := cmp_valueOf normal normal'
  rw [same, cmp_self_eq_eq] at order
  obtain ⟨exponents, mantissas⟩ := Ordering.then_eq_eq.1 order.symm
  exact ⟨compare_eq_iff_eq.1 mantissas, compare_eq_iff_eq.1 exponents⟩

end Unique

/-- The bits of a finite double, from its parts: the first bit of a full mantissa is not written,
but adds one to the exponent that is. -/
theorem toNat_toBits_of_shape {x : Float} {negative : Bool} {mantissa : Nat} {exponent : Int}
    (shape : Double.shape x = .finite negative mantissa exponent) :
    (x.toBits.toNat : Int) =
      (if negative then 2 ^ 63 else 0) + (exponent + 1074) * 2 ^ 52 + mantissa := by
  have bound : x.toBits.toNat < 2 ^ 64 := x.toBits.toNat_lt
  unfold Double.shape shapeOfBits at shape
  simp only [Nat.pow_eq] at shape
  generalize x.toBits.toNat = bits at *
  have sign : (if bits / 2 ^ 63 == 1 then 2 ^ 63 else 0 : Int) =
      (bits / 2 ^ 63 : Nat) * 2 ^ 63 := by
    have one : bits / 2 ^ 63 = 0 ∨ bits / 2 ^ 63 = 1 := by omega
    rcases one with zero | one
    · rw [zero]
      rfl
    · rw [one]
      rfl
  split at shape
  · split at shape <;> cases shape
  · split at shape
    · cases shape
      rw [sign]
      omega
    · cases shape
      rw [sign]
      omega

/-- A finite double is determined by its parts. -/
theorem eq_of_shape_eq_finite {x y : Float} {negative : Bool} {mantissa : Nat} {exponent : Int}
    (shape : Double.shape x = .finite negative mantissa exponent)
    (shape' : Double.shape y = .finite negative mantissa exponent) : x = y := by
  have bits : x.toBits = y.toBits := by
    apply UInt64.toNat_inj.1
    have same := (toNat_toBits_of_shape shape).trans (toNat_toBits_of_shape shape').symm
    exact Int.ofNat_inj.1 same
  obtain ⟨⟨bitsOfX, _⟩⟩ := x
  obtain ⟨⟨bitsOfY, _⟩⟩ := y
  obtain rfl : bitsOfX = bitsOfY := bits
  rfl

/-- An integer is rounded to one double only. -/
theorem Rounds.unique {n : ℤ} {x y : Float} (rounds : Rounds n x) (rounds' : Rounds n y) :
    x = y := by
  obtain ⟨mantissa, exponent, shape, closest⟩ := rounds
  obtain ⟨mantissa', exponent', shape', closest'⟩ := rounds'
  rw [isClosest_natAbs_iff] at closest closest'
  have normal := normal_of_shape shape
  have normal' := normal_of_shape shape'
  have same := (not_lt.1 (closest'.not_lt normal' normal closest)).antisymm
    (not_lt.1 (closest.not_lt normal normal' closest'))
  obtain ⟨rfl, rfl⟩ := eq_of_valueOf_eq normal normal' same
  exact eq_of_shape_eq_finite shape shape'

/-- **The double of an integer** is the one that the integer rounds to, and an integer has none if
it rounds to none. -/
theorem rounds_iff {n : ℤ} {x : Float} : Rounds n x ↔ ofInt? n = some x := by
  unfold ofInt?
  constructor
  · intro rounds
    have fits := fits_of_rounds rounds
    rw [if_pos (fits_iff.2 fits), (rounds_ofInt fits).unique rounds]
  · intro made
    split at made
    · rename_i fits
      cases made
      exact rounds_ofInt (fits_iff.1 fits)
    · cases made

end Double

end ArenaStandings
