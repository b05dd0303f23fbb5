import ArenaStandings.Decimal.Double
import Mathlib.Data.Int.Order.Basic
import Mathlib.Data.Prod.Lex
import Mathlib.Order.Monotone.Basic

/-!
# The order of doubles

Doubles that are numbers are compared as their places on a line are
(`Double.compare_eq_cmp_placeOf`), and the two zeros share a place (`Double.beq_iff_place_eq`). The
places are linearly ordered, which the doubles are not: what is sorted by doubles that are all
numbers is sorted by their places.
-/

namespace ArenaStandings

namespace Double

open Float.Model

/-- The place on the line: first the kind, from the infinity below to the one above, then exponent
and mantissa, both downwards for what is negative. What is no number has no place of its own. -/
def placeOf : UnpackedFloat → ℤ ×ₗ ℤ ×ₗ ℤ
  | .infinity .negative => toLex (-2, toLex (0, 0))
  | .finite .negative mantissa exponent _ => toLex (-1, toLex (-exponent, -mantissa))
  | .finite .positive mantissa exponent _ => toLex (1, toLex (exponent, mantissa))
  | .infinity .positive => toLex (2, toLex (0, 0))
  | .zero _ | .notANumber => toLex (0, toLex (0, 0))

/-- The place of a double among the doubles. -/
def place (x : Float) : ℤ ×ₗ ℤ ×ₗ ℤ := placeOf x.toModel.unpack

section Pairs

variable {α β : Type} [LinearOrder α] [LinearOrder β] {a a' : α}

theorem cmp_toLex_of_lt (less : a < a') (b b' : β) : cmp (toLex (a, b)) (toLex (a', b')) = .lt :=
  (cmp_eq_lt_iff _ _).2 (Prod.Lex.toLex_lt_toLex.2 (.inl less))

theorem cmp_toLex_of_gt (greater : a' < a) (b b' : β) :
    cmp (toLex (a, b)) (toLex (a', b')) = .gt :=
  (cmp_eq_gt_iff _ _).2 (Prod.Lex.toLex_lt_toLex.2 (.inl greater))

/-- Pairs are compared by their first parts, and by the second if these are equal. -/
theorem cmp_toLex (a a' : α) (b b' : β) :
    cmp (toLex (a, b)) (toLex (a', b')) = (cmp a a').then (cmp b b') := by
  rcases lt_trichotomy a a' with less | rfl | greater
  · rw [cmp_toLex_of_lt less, (cmp_eq_lt_iff a a').2 less]
    rfl
  · have second : StrictMono fun b : β => toLex (a, b) := fun _ _ less =>
      Prod.Lex.toLex_lt_toLex.2 (.inr ⟨rfl, less⟩)
    rw [second.cmp_map_eq, cmp_self_eq_eq]
    rfl
  · rw [cmp_toLex_of_gt greater, (cmp_eq_gt_iff a a').2 greater]
    rfl

end Pairs

theorem cmp_exponent_mantissa (exponent exponent' : Int) (mantissa mantissa' : Nat) :
    cmp (toLex (exponent, (mantissa : ℤ))) (toLex (exponent', (mantissa' : ℤ))) =
      (compare exponent exponent').then (compare mantissa mantissa') := by
  have up : StrictMono fun n : ℕ => (n : ℤ) := fun _ _ => Int.ofNat_lt.2
  rw [cmp_toLex, up.cmp_map_eq, cmp_eq_compare, cmp_eq_compare]

theorem cmp_neg_exponent_mantissa (exponent exponent' : Int) (mantissa mantissa' : Nat) :
    cmp (toLex (-exponent, -(mantissa : ℤ))) (toLex (-exponent', -(mantissa' : ℤ))) =
      ((compare exponent exponent').then (compare mantissa mantissa')).swap := by
  have down : StrictAnti fun n : ℤ => -n := fun _ _ => Int.neg_lt_neg
  rw [cmp_toLex, down.cmp_map_eq, down.cmp_map_eq, ← cmp_exponent_mantissa, cmp_toLex,
    Ordering.swap_then, cmp_swap, cmp_swap]

/-- Numbers are compared as their places are. -/
theorem compare_eq_cmp_placeOf {u v : UnpackedFloat} (first : u.isNaN = false)
    (second : v.isNaN = false) :
    UnpackedFloat.compare u v = some (cmp (placeOf u) (placeOf v)) := by
  -- kinds that differ settle the order; only finite numbers of one sign are left
  rcases u with (_ | _) | _ | _ | ⟨_ | _, mantissa, exponent, _⟩ <;>
    rcases v with (_ | _) | _ | _ | ⟨_ | _, mantissa', exponent', _⟩ <;>
    first
    | cases first; done
    | cases second; done
    | exact congrArg some (cmp_toLex_of_lt (by decide) _ _).symm
    | exact congrArg some (cmp_toLex_of_gt (by decide) _ _).symm
    | exact congrArg some (cmp_self_eq_eq _).symm
    | skip
  · change some _ = some (cmp (toLex (-1, toLex (_, _))) (toLex (-1, toLex (_, _))))
    rw [cmp_toLex, cmp_neg_exponent_mantissa]
    rfl
  · change some _ = some (cmp (toLex (1, toLex (_, _))) (toLex (1, toLex (_, _))))
    rw [cmp_toLex, cmp_exponent_mantissa]
    rfl

section Comparison

variable {x y : Float} (first : x.isNaN = false) (second : y.isNaN = false)

include first second

/-- Of two doubles that are numbers the less has the lower place. -/
theorem lt_iff_place_lt : x < y ↔ place x < place y := by
  have compared := compare_eq_cmp_placeOf first second
  calc x < y ↔ (UnpackedFloat.compare x.toModel.unpack y.toModel.unpack == some .lt) = true :=
        decide_eq_true_iff
    _ ↔ cmp (place x) (place y) = .lt := by rw [compared, beq_iff_eq, Option.some.injEq]; rfl
    _ ↔ place x < place y := cmp_eq_lt_iff _ _

/-- Two doubles that are numbers are equal exactly when they share a place. -/
theorem beq_iff_place_eq : (x == y) = true ↔ place x = place y := by
  have compared := compare_eq_cmp_placeOf first second
  calc (x == y) = true ↔
        (UnpackedFloat.compare x.toModel.unpack y.toModel.unpack == some .eq) = true := Iff.rfl
    _ ↔ cmp (place x) (place y) = .eq := by rw [compared, beq_iff_eq, Option.some.injEq]; rfl
    _ ↔ place x = place y := cmp_eq_eq_iff _ _

end Comparison

/-! ## Sums -/

theorem isNaN_unpack (bits : BitVec Format.binary64.numBits) :
    (UnpackedFloat.unpack .binary64 bits).isNaN = true ↔
      UnpackedFloat.unpackExponent bits = -1#_ ∧ UnpackedFloat.unpackMantissa bits ≠ 0#_ := by
  unfold UnpackedFloat.unpack
  dsimp only
  by_cases full : UnpackedFloat.unpackExponent bits = -1#_
  · rw [if_pos full]
    by_cases zero : UnpackedFloat.unpackMantissa bits = 0#_
    · rw [if_pos zero]
      exact iff_of_false Bool.false_ne_true fun both => both.2 zero
    · rw [if_neg zero]
      exact iff_of_true rfl ⟨full, zero⟩
  · rw [if_neg full]
    refine iff_of_false ?_ fun both => full both.1
    by_cases small : UnpackedFloat.unpackExponent bits = 0#_
    · rw [if_pos small]
      by_cases zero : UnpackedFloat.unpackMantissa bits = 0#_
      · rw [dif_pos zero]
        exact Bool.false_ne_true
      · rw [dif_neg zero]
        exact Bool.false_ne_true
    · rw [if_neg small]
      exact Bool.false_ne_true

/-- Packing makes no number into what is none. -/
theorem isNaN_unpack_pack {u : UnpackedFloat} (number : u.isNaN = false) :
    (UnpackedFloat.unpack .binary64 (UnpackedFloat.pack .binary64 u)).isNaN = false := by
  rw [Bool.eq_false_iff, Ne, isNaN_unpack, not_and, not_not]
  fun_cases UnpackedFloat.pack with
  | case1 => cases number
  | case2 sign => exact fun _ => UnpackedFloat.unpackMantissa_packComponents
  | case3 sign => exact fun _ => UnpackedFloat.unpackMantissa_packComponents
  | case4 sign mantissa exponent => exact fun _ => UnpackedFloat.unpackMantissa_packComponents
  | case5 sign mantissa exponent _ _ biased small =>
    intro full
    rw [UnpackedFloat.unpackExponent_packComponents] at full
    have same : biased % 2 ^ 11 = 2 ^ 11 - 1 := by simpa using congrArg BitVec.toNat full
    have below : biased + 1 < 2 ^ 11 := Nat.lt_of_not_le small
    omega
  | case6 sign mantissa exponent =>
    intro full
    rw [UnpackedFloat.unpackExponent_packComponents] at full
    cases full

theorem isNaN_dite {condition : Prop} [Decidable condition] {first : condition → UnpackedFloat}
    {second : ¬ condition → UnpackedFloat} (number : ∀ holds, (first holds).isNaN = false)
    (number' : ∀ fails, (second fails).isNaN = false) :
    (dite condition first second).isNaN = false := by
  by_cases holds : condition
  · rw [dif_pos holds]
    exact number holds
  · rw [dif_neg holds]
    exact number' holds

theorem isNaN_round (sign : UnpackedFloat.Sign) (mantissa : Nat) (exponent : Int) :
    (UnpackedFloat.round .binary64 sign mantissa exponent).isNaN = false := by
  unfold UnpackedFloat.round UnpackedFloat.roundWithAccuracy
  exact isNaN_dite (fun _ => rfl) fun _ => rfl

theorem isNaN_normalize (mantissa exponent : Int) (sign : UnpackedFloat.Sign) :
    (UnpackedFloat.normalize .binary64 mantissa exponent sign).isNaN = false := by
  unfold UnpackedFloat.normalize
  split
  · exact isNaN_round ..
  · rfl
  · exact isNaN_round ..

theorem isNaN_of_isFinite {u : UnpackedFloat} (finite : u.isFinite = true) : u.isNaN = false := by
  cases u with
  | notANumber => cases finite
  | infinity | zero | finite => rfl

/-- Only infinities of both signs, or what is no number, add up to no number. -/
theorem isNaN_unpackedAdd {u v : UnpackedFloat} (number : u.isNaN = false)
    (finite : v.isFinite = true) : (UnpackedFloat.add .binary64 u v).isNaN = false := by
  fun_cases UnpackedFloat.add with
  | case1 => cases number
  | case2 | case4 | case6 => cases finite
  | case3 | case5 | case7 | case8 => rfl
  | case9 => exact isNaN_of_isFinite finite
  | case10 => exact number
  | case11 => exact isNaN_normalize ..

/-- A sum is a number if one summand is a number and the other is finite. -/
theorem isNaN_add {x y : Float} (number : x.isNaN = false) (finite : y.isFinite = true) :
    (x + y).isNaN = false :=
  isNaN_unpack_pack (isNaN_unpackedAdd number finite)

/-- What finite amounts add up to is a number, though it may be an infinity. -/
theorem isNaN_foldl_add {amounts : List Float} {start : Float} (number : start.isNaN = false)
    (finite : ∀ amount ∈ amounts, amount.isFinite = true) :
    (amounts.foldl (· + ·) start).isNaN = false := by
  induction amounts generalizing start with
  | nil => exact number
  | cons amount amounts ih =>
    have next := isNaN_add number (finite amount List.mem_cons_self)
    exact ih next fun other member => finite other (List.mem_cons_of_mem _ member)

end Double

end ArenaStandings
