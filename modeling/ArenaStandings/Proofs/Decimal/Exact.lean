import ArenaStandings.Number
import ArenaStandings.Proofs.Decimal.Doubles
import Mathlib.Algebra.Order.Field.Power
import Mathlib.Algebra.Order.Ring.Rat

/-!
# What numbers stand for

A number that is one has a level (`Number.level?`): the rational that it stands for, or an infinity.
The order of numbers is that of their levels, across the kinds and for doubles among themselves
(`Number.le_iff_level`), though doubles are compared by exponent and mantissa: a greater exponent
makes up for any mantissa, for above the least exponent mantissas have their first bit. So the order
is transitive.
-/

namespace ArenaStandings

namespace Double

open Float.Model

/-! ## Levels -/

/-- The number `± mantissa · 2 ^ exponent`. -/
def valueOf (negative : Bool) (mantissa : Nat) (exponent : Int) : ℚ :=
  ((if negative then -(mantissa : Int) else mantissa : Int) : ℚ) * 2 ^ exponent

/-- Where a shape lies: between the infinities at its value, or at one of them. -/
def Shape.level? : Shape → Option (ℤ ×ₗ ℚ)
  | .notANumber => none
  | .infinite negative => some (toLex (if negative then -1 else 1, 0))
  | .finite negative mantissa exponent => some (toLex (0, valueOf negative mantissa exponent))

theorem cast_two_pow (k : ℕ) : ((Nat.pow 2 k : ℕ) : ℚ) = 2 ^ k := by
  change ((2 ^ k : ℕ) : ℚ) = 2 ^ k
  rw [Nat.cast_pow, Nat.cast_ofNat]

/-- Integers are compared with shapes exactly. -/
theorem compareInt_eq_cmp (n : Int) (negative : Bool) (mantissa : Nat) (exponent : Int) :
    compareInt n negative mantissa exponent =
      cmp (n : ℚ) (valueOf negative mantissa exponent) := by
  unfold compareInt valueOf
  generalize (if negative then -(mantissa : Int) else mantissa) = signed
  have casts : StrictMono fun n : ℤ => (n : ℚ) := Int.cast_strictMono
  cases exponent with
  | ofNat up =>
    have scaled : (signed : ℚ) * 2 ^ Int.ofNat up =
        ((signed * (Nat.pow 2 up : Nat) : Int) : ℚ) := by
      rw [Int.cast_mul, Int.cast_natCast, cast_two_pow, Int.ofNat_eq_natCast, zpow_natCast]
    rw [scaled, casts.cmp_map_eq]
    exact (cmp_eq_compare ..).symm
  | negSucc down =>
    have power : (0 : ℚ) < 2 ^ (down + 1) := pow_pos two_pos _
    have scale : StrictMono fun q : ℚ => q * 2 ^ (down + 1) := fun _ _ less =>
      mul_lt_mul_of_pos_right less power
    have scaled : (signed : ℚ) * 2 ^ Int.negSucc down * 2 ^ (down + 1) = signed := by
      rw [zpow_negSucc, mul_assoc, inv_mul_cancel₀ power.ne', mul_one]
    have scaled' : (n : ℚ) * 2 ^ (down + 1) =
        ((n * (Nat.pow 2 (down + 1) : Nat) : Int) : ℚ) := by
      rw [Int.cast_mul, Int.cast_natCast, cast_two_pow]
    rw [← scale.cmp_map_eq, scaled, scaled', casts.cmp_map_eq]
    exact (cmp_eq_compare ..).symm

section Compared

variable {α : Type} [LinearOrder α] (a b : α)

theorem isLE_cmp : (cmp a b).isLE = true ↔ a ≤ b := by
  rcases lt_trichotomy a b with less | rfl | greater
  · rw [(cmp_eq_lt_iff a b).2 less]
    exact iff_of_true rfl less.le
  · rw [cmp_self_eq_eq]
    exact iff_of_true rfl le_rfl
  · rw [(cmp_eq_gt_iff a b).2 greater]
    exact iff_of_false Bool.false_ne_true greater.not_ge

theorem isGE_cmp : (cmp a b).isGE = true ↔ b ≤ a := by
  rw [← cmp_swap, Ordering.isGE_swap, isLE_cmp]

theorem any_isLE_cmp {a? b? : Option α} :
    (a?.bind fun a => b?.map (cmp a)).any Ordering.isLE = true ↔
      ∃ a ∈ a?, ∃ b ∈ b?, a ≤ b := by
  rcases a? with _ | a
  · exact iff_of_false Bool.false_ne_true fun ⟨_, absent, _⟩ => nomatch absent
  · rcases b? with _ | b
    · exact iff_of_false Bool.false_ne_true fun ⟨_, _, _, absent, _⟩ => nomatch absent
    · rw [Option.bind_some, Option.map_some, Option.any_some, isLE_cmp]
      simp only [Option.mem_some_iff, exists_eq_left']

end Compared

theorem cmp_level_finite (a b : ℚ) : cmp (toLex ((0 : ℤ), a)) (toLex (0, b)) = cmp a b := by
  rw [cmp_toLex, cmp_self_eq_eq]
  rfl

/-! ## Shapes and what the library unpacks -/

/-- The shape of what is unpacked. -/
def shapeOf : UnpackedFloat → Shape
  | .notANumber => .notANumber
  | .infinity sign => .infinite (sign == .negative)
  | .zero sign => .finite (sign == .negative) 0 (-1074)
  | .finite sign mantissa exponent _ => .finite (sign == .negative) mantissa exponent

theorem shapeOf_infinity (sign : UnpackedFloat.Sign) :
    shapeOf (.infinity sign) = .infinite (sign == .negative) := rfl

theorem shapeOf_zero (sign : UnpackedFloat.Sign) :
    shapeOf (.zero sign) = .finite (sign == .negative) 0 (-1074) := rfl

theorem shapeOf_finite (sign : UnpackedFloat.Sign) {mantissa : Nat} (exponent : Int)
    (positive : 0 < mantissa) :
    shapeOf (.finite sign mantissa exponent positive) =
      .finite (sign == .negative) mantissa exponent := rfl

section Unpacked

variable (bits : BitVec Format.binary64.numBits)

theorem toNat_unpackMantissa :
    (UnpackedFloat.unpackMantissa bits).toNat = bits.toNat % Nat.pow 2 52 := by
  simp [UnpackedFloat.unpackMantissa, BitVec.extractLsb_toNat]

theorem toNat_unpackExponent :
    (UnpackedFloat.unpackExponent bits).toNat = bits.toNat / Nat.pow 2 52 % Nat.pow 2 11 := by
  simp [UnpackedFloat.unpackExponent, BitVec.extractLsb_toNat, Nat.shiftRight_eq_div_pow]

theorem unpackMantissa_eq_zero_iff :
    UnpackedFloat.unpackMantissa bits = 0#_ ↔ bits.toNat % Nat.pow 2 52 = 0 := by
  rw [← BitVec.toNat_inj, toNat_unpackMantissa]
  rfl

theorem unpackExponent_eq_zero_iff :
    UnpackedFloat.unpackExponent bits = 0#_ ↔ bits.toNat / Nat.pow 2 52 % Nat.pow 2 11 = 0 := by
  rw [← BitVec.toNat_inj, toNat_unpackExponent]
  rfl

theorem unpackExponent_eq_neg_one_iff :
    UnpackedFloat.unpackExponent bits = -1#_ ↔
      bits.toNat / Nat.pow 2 52 % Nat.pow 2 11 = 2047 := by
  rw [← BitVec.toNat_inj, toNat_unpackExponent]
  rfl

theorem unpackSign_beq_negative :
    (UnpackedFloat.Sign.ofBitVec (UnpackedFloat.unpackSign bits) == .negative) =
      (bits.toNat / Nat.pow 2 63 == 1) := by
  have bounded : bits.toNat / Nat.pow 2 63 < 2 := Nat.div_lt_of_lt_mul bits.isLt
  have sign : (UnpackedFloat.unpackSign bits).toNat = bits.toNat / Nat.pow 2 63 := by
    have one : bits.toNat / Nat.pow 2 63 % 2 = bits.toNat / Nat.pow 2 63 := Nat.mod_eq_of_lt bounded
    change (BitVec.cast _ (BitVec.extractLsb 63 63 bits)).toNat = _
    rw [BitVec.toNat_cast, BitVec.extractLsb_toNat, Nat.shiftRight_eq_div_pow]
    exact one
  have positive : UnpackedFloat.unpackSign bits = 0#1 ↔ bits.toNat / Nat.pow 2 63 = 0 := by
    rw [← BitVec.toNat_inj, sign]
    rfl
  by_cases zero : UnpackedFloat.unpackSign bits = 0#1
  · rw [UnpackedFloat.Sign.ofBitVec, if_pos zero, positive.1 zero]
    rfl
  · have one : bits.toNat / Nat.pow 2 63 = 1 := by
      rw [positive] at zero
      omega
    rw [UnpackedFloat.Sign.ofBitVec, if_neg zero, one]
    rfl

theorem toNat_append_unpackMantissa :
    (1#1 ++ UnpackedFloat.unpackMantissa bits).toNat =
      Nat.pow 2 52 + bits.toNat % Nat.pow 2 52 := by
  have small : bits.toNat % Nat.pow 2 52 < 2 ^ 52 := Nat.mod_lt _ (Nat.two_pow_pos 52)
  rw [BitVec.toNat_append, toNat_unpackMantissa]
  exact (Nat.two_pow_add_eq_or_of_lt small 1).symm

/-- What the library unpacks has the shape that is read off the bits. -/
theorem shapeOf_unpack :
    shapeOf (UnpackedFloat.unpack .binary64 bits) = shapeOfBits bits.toNat := by
  have sign := unpackSign_beq_negative bits
  unfold shapeOfBits UnpackedFloat.unpack
  dsimp only
  by_cases full : UnpackedFloat.unpackExponent bits = -1#_
  · rw [if_pos full, if_pos ((unpackExponent_eq_neg_one_iff bits).1 full)]
    by_cases zero : UnpackedFloat.unpackMantissa bits = 0#_
    · rw [if_pos zero, if_pos ((unpackMantissa_eq_zero_iff bits).1 zero), shapeOf_infinity,
        sign]
    · rw [if_neg zero, if_neg ((unpackMantissa_eq_zero_iff bits).not.1 zero)]
      rfl
  · rw [if_neg full, if_neg ((unpackExponent_eq_neg_one_iff bits).not.1 full)]
    by_cases small : UnpackedFloat.unpackExponent bits = 0#_
    · rw [if_pos small, if_pos ((unpackExponent_eq_zero_iff bits).1 small)]
      by_cases zero : UnpackedFloat.unpackMantissa bits = 0#_
      · rw [dif_pos zero, shapeOf_zero, sign, (unpackMantissa_eq_zero_iff bits).1 zero]
      · rw [dif_neg zero, shapeOf_finite, sign, toNat_unpackMantissa, small]
        rfl
    · rw [if_neg small, if_neg ((unpackExponent_eq_zero_iff bits).not.1 small), shapeOf_finite,
        sign, toNat_append_unpackMantissa, toNat_unpackExponent]
      rfl

end Unpacked

theorem shape_eq (x : Float) : shape x = shapeOf x.toModel.unpack :=
  (shapeOf_unpack x.toBits.toBitVec).symm

/-- A finite double has fifty-three bits of mantissa, and above the least exponent the first of them
is one. -/
structure Normal (mantissa : Nat) (exponent : Int) : Prop where
  narrow : mantissa < Nat.pow 2 53
  least : -1074 ≤ exponent
  greatest : exponent ≤ 971
  full : exponent = -1074 ∨ Nat.pow 2 52 ≤ mantissa

theorem normal_of_shape {x : Float} {negative : Bool} {mantissa : Nat} {exponent : Int}
    (shape : Double.shape x = .finite negative mantissa exponent) : Normal mantissa exponent := by
  have small : x.toBits.toNat % Nat.pow 2 52 < Nat.pow 2 52 := Nat.mod_lt _ (Nat.two_pow_pos 52)
  have low : x.toBits.toNat / Nat.pow 2 52 % Nat.pow 2 11 < Nat.pow 2 11 :=
    Nat.mod_lt _ (Nat.two_pow_pos 11)
  have double : Nat.pow 2 53 = 2 * Nat.pow 2 52 := rfl
  have many : Nat.pow 2 11 = 2048 := rfl
  unfold Double.shape shapeOfBits at shape
  dsimp only at shape
  split at shape
  · split at shape <;> cases shape
  · split at shape
    · cases shape
      exact ⟨by omega, by omega, by omega, .inl rfl⟩
    · cases shape
      exact ⟨by omega, by omega, by omega, .inr (by omega)⟩

/-! ## The order of doubles -/

theorem valueOf_false (mantissa : Nat) (exponent : Int) :
    valueOf false mantissa exponent = mantissa * 2 ^ exponent := by
  simp only [valueOf, Bool.false_eq_true, ↓reduceIte, Int.cast_natCast]

theorem valueOf_negative (mantissa : Nat) (exponent : Int) :
    valueOf true mantissa exponent = -valueOf false mantissa exponent := by
  simp only [valueOf, ↓reduceIte, Bool.false_eq_true, Int.cast_neg, neg_mul]

theorem valueOf_zero (negative : Bool) (exponent : Int) : valueOf negative 0 exponent = 0 := by
  cases negative <;> simp [valueOf]

theorem valueOf_pos {mantissa : Nat} (positive : 0 < mantissa) (exponent : Int) :
    0 < valueOf false mantissa exponent := by
  have cast : (0 : ℚ) < mantissa := Nat.cast_pos.2 positive
  simpa [valueOf] using mul_pos cast (zpow_pos two_pos exponent)

theorem valueOf_neg {mantissa : Nat} (positive : 0 < mantissa) (exponent : Int) :
    valueOf true mantissa exponent < 0 := by
  rw [valueOf_negative]
  exact neg_lt_zero.2 (valueOf_pos positive exponent)

section Normals

variable {mantissa mantissa' : Nat} {exponent exponent' : Int}

/-- A greater exponent makes up for any mantissa. -/
theorem valueOf_lt_valueOf (normal : Normal mantissa exponent)
    (normal' : Normal mantissa' exponent') (less : exponent < exponent') :
    valueOf false mantissa exponent < valueOf false mantissa' exponent' := by
  have full : Nat.pow 2 52 ≤ mantissa' := by
    rcases normal'.full with least | full
    · have := normal.least
      omega
    · exact full
  have narrow : (mantissa : ℚ) < 2 ^ 53 := by
    rw [← cast_two_pow]
    exact Nat.cast_lt.2 normal.narrow
  have wide : (2 : ℚ) ^ 52 ≤ mantissa' := by
    rw [← cast_two_pow]
    exact Nat.cast_le.2 full
  have power : (0 : ℚ) < 2 ^ exponent := zpow_pos two_pos exponent
  calc valueOf false mantissa exponent = mantissa * 2 ^ exponent := valueOf_false mantissa exponent
    _ < 2 ^ 53 * 2 ^ exponent := mul_lt_mul_of_pos_right narrow power
    _ = 2 ^ 52 * 2 ^ (exponent + 1) := by
      rw [zpow_add_one₀ two_ne_zero, mul_comm (2 ^ exponent), ← mul_assoc, ← pow_succ]
    _ ≤ 2 ^ 52 * 2 ^ exponent' := by
      have up : (2 : ℚ) ^ (exponent + 1) ≤ 2 ^ exponent' :=
        zpow_le_zpow_right₀ one_le_two less
      exact mul_le_mul_of_nonneg_left up (pow_nonneg two_pos.le 52)
    _ ≤ mantissa' * 2 ^ exponent' := mul_le_mul_of_nonneg_right wide (zpow_pos two_pos _).le
    _ = valueOf false mantissa' exponent' := (valueOf_false mantissa' exponent').symm

/-- Doubles of one sign are compared by their exponents, and by their mantissas if these are
equal. -/
theorem cmp_valueOf (normal : Normal mantissa exponent) (normal' : Normal mantissa' exponent') :
    cmp (valueOf false mantissa exponent) (valueOf false mantissa' exponent') =
      (compare exponent exponent').then (compare mantissa mantissa') := by
  rcases lt_trichotomy exponent exponent' with less | rfl | greater
  · rw [(cmp_eq_lt_iff _ _).2 (valueOf_lt_valueOf normal normal' less), compare_lt_iff_lt.2 less]
    rfl
  · have scale : StrictMono fun n : ℕ => valueOf false n exponent := by
      intro m n less
      have cast : (m : ℚ) < n := Nat.cast_lt.2 less
      simpa [valueOf] using mul_lt_mul_of_pos_right cast (zpow_pos two_pos exponent)
    rw [scale.cmp_map_eq, compare_eq_iff_eq.2 rfl, cmp_eq_compare]
    rfl
  · rw [(cmp_eq_gt_iff _ _).2 (valueOf_lt_valueOf normal' normal greater),
      compare_gt_iff_gt.2 greater]
    rfl

end Normals

/-- Doubles are compared by what they stand for. -/
theorem compare_unpack (x y : Float) :
    UnpackedFloat.compare x.toModel.unpack y.toModel.unpack =
      (shape x).level?.bind fun a => (shape y).level?.map (cmp a) := by
  have normal : ∀ {negative mantissa exponent}, shape x = .finite negative mantissa exponent →
      Normal mantissa exponent := normal_of_shape
  have normal' : ∀ {negative mantissa exponent}, shape y = .finite negative mantissa exponent →
      Normal mantissa exponent := normal_of_shape
  rw [shape_eq] at normal normal'
  rw [shape_eq, shape_eq]
  generalize x.toModel.unpack = u at normal
  generalize y.toModel.unpack = v at normal'
  -- infinities settle the order by their kind; zeros and finite numbers are left
  rcases u with (_ | _) | _ | _ | ⟨_ | _, mantissa, exponent, positive⟩ <;>
    rcases v with (_ | _) | _ | _ | ⟨_ | _, mantissa', exponent', positive'⟩ <;>
    first
    | rfl
    | exact congrArg some (cmp_toLex_of_lt (by decide) _ _).symm
    | exact congrArg some (cmp_toLex_of_gt (by decide) _ _).symm
    | exact congrArg some (cmp_self_eq_eq _).symm
    | refine congrArg some (Eq.trans ?_ (cmp_level_finite _ _).symm)
  case zero.zero => rw [valueOf_zero, valueOf_zero, cmp_self_eq_eq]
  case zero.finite.negative =>
    rw [valueOf_zero]
    exact ((cmp_eq_gt_iff _ _).2 (valueOf_neg positive' exponent')).symm
  case zero.finite.positive =>
    rw [valueOf_zero]
    exact ((cmp_eq_lt_iff _ _).2 (valueOf_pos positive' exponent')).symm
  case finite.negative.zero =>
    rw [valueOf_zero]
    exact ((cmp_eq_lt_iff _ _).2 (valueOf_neg positive exponent)).symm
  case finite.positive.zero =>
    rw [valueOf_zero]
    exact ((cmp_eq_gt_iff _ _).2 (valueOf_pos positive exponent)).symm
  case finite.negative.finite.positive =>
    have less := (valueOf_neg positive exponent).trans (valueOf_pos positive' exponent')
    exact ((cmp_eq_lt_iff _ _).2 less).symm
  case finite.positive.finite.negative =>
    have less := (valueOf_neg positive' exponent').trans (valueOf_pos positive exponent)
    exact ((cmp_eq_gt_iff _ _).2 less).symm
  case finite.positive.finite.positive =>
    exact (cmp_valueOf (normal rfl) (normal' rfl)).symm
  case finite.negative.finite.negative =>
    have down : StrictAnti fun q : ℚ => -q := fun _ _ => neg_lt_neg
    change _ = cmp (valueOf true mantissa exponent) (valueOf true mantissa' exponent')
    rw [valueOf_negative, valueOf_negative, down.cmp_map_eq, ← cmp_swap,
      cmp_valueOf (normal rfl) (normal' rfl)]

theorem le_iff_level (x y : Float) :
    x ≤ y ↔ ∃ a ∈ (shape x).level?, ∃ b ∈ (shape y).level?, a ≤ b := by
  calc x ≤ y ↔
        (UnpackedFloat.compare x.toModel.unpack y.toModel.unpack).any Ordering.isLE = true :=
      decide_eq_true_iff
    _ ↔ ∃ a ∈ (shape x).level?, ∃ b ∈ (shape y).level?, a ≤ b := by
      rw [compare_unpack]
      exact any_isLE_cmp

end Double

namespace Number

/-- Where a number lies: at the rational that it stands for, or at an infinity. -/
def level? : Number → Option (ℤ ×ₗ ℚ)
  | int n => some (toLex (0, (n : ℚ)))
  | float x => (Double.shape x).level?

theorem compareIntFloat_eq (n : Int) (x : Float) :
    compareIntFloat n x = (float x).level?.map (cmp (toLex (0, (n : ℚ)))) := by
  unfold compareIntFloat
  rw [level?]
  cases Double.shape x with
  | notANumber => rfl
  | infinite negative =>
    cases negative with
    | true => exact congrArg some (Double.cmp_toLex_of_gt (by decide) _ _).symm
    | false => exact congrArg some (Double.cmp_toLex_of_lt (by decide) _ _).symm
  | finite negative mantissa exponent =>
    refine congrArg some ?_
    rw [Double.cmp_level_finite, Double.compareInt_eq_cmp]

/-- **The order of numbers is exact.** Numbers of whatever kinds are ordered as what they stand for
is, and what is no number is in no order. -/
theorem le_iff_level {a b : Number} :
    a ≤ b ↔ ∃ u ∈ a.level?, ∃ v ∈ b.level?, u ≤ v := by
  cases a with
  | int m =>
    cases b with
    | int n =>
      rw [int_le_int]
      simp [level?, Prod.Lex.toLex_le_toLex]
    | float y =>
      change (compareIntFloat m y).any Ordering.isLE = true ↔ _
      rw [compareIntFloat_eq, ← Double.any_isLE_cmp]
      rfl
  | float x =>
    cases b with
    | int n =>
      change (compareIntFloat n x).any Ordering.isGE = true ↔ _
      rw [compareIntFloat_eq, ← Double.any_isLE_cmp]
      rcases (float x).level? with _ | u
      · rfl
      · exact (Double.isGE_cmp _ u).trans (Double.isLE_cmp u _).symm
    | float y => exact decide_eq_true_iff.trans (Double.le_iff_level x y)

/-- The order of numbers is transitive. -/
instance : IsTrans Number (· ≤ ·) where
  trans a b c first second := by
    obtain ⟨u, below, v, middle, less⟩ := le_iff_level.1 first
    obtain ⟨v', middle', w, above, less'⟩ := le_iff_level.1 second
    obtain rfl := Option.mem_unique middle middle'
    exact le_iff_level.2 ⟨u, below, w, above, less.trans less'⟩

end Number

end ArenaStandings
