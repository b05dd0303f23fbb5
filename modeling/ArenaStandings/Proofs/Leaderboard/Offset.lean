import ArenaStandings.Proofs.Decimal.Exact
import ArenaStandings.Proofs.Json.Legible
import ArenaStandings.Proofs.Leaderboard.Cursor
import ArenaStandings.Store.Order

/-!
# What any cursor stands for

Clients may send any text as a cursor. What it holds in the place of an offset (`Cursor.held`) is
some value or nothing, and unless this is an integer beyond the doubles the cursor stands for an
offset: the whole part of a number that has one, and the start otherwise (`Cursor.decode_outcome`).
Integers beyond the doubles fail whatever their sign, though below zero they too could stand for the
start (`Cursor.not_decoded_of_negative`).
-/

namespace ArenaStandings

namespace Double

/-- A whole number is not above `mantissa · 2 ^ exponent` exactly when it is not above the whole
part. -/
theorem isLE_compareInt_iff (n mantissa : Nat) (exponent : Int) :
    (compareInt n false mantissa exponent).isLE = true ↔ n ≤ wholePart mantissa exponent := by
  cases exponent with
  | ofNat up =>
    change (compare (n : Int) (mantissa * (Nat.pow 2 up : Nat))).isLE = true ↔
      n ≤ mantissa * Nat.pow 2 up
    rw [Std.isLE_compare]
    norm_cast
  | negSucc down =>
    have scaled : n ≤ mantissa / Nat.pow 2 (down + 1) ↔ n * Nat.pow 2 (down + 1) ≤ mantissa :=
      Nat.le_div_iff_mul_le (Nat.two_pow_pos _)
    change (compare ((n : Int) * (Nat.pow 2 (down + 1) : Nat)) mantissa).isLE = true ↔
      n ≤ mantissa / Nat.pow 2 (down + 1)
    rw [Std.isLE_compare, scaled]
    norm_cast

/-- Only zero is not above what has a minus sign, and only if that is zero too. -/
theorem isLE_compareInt_negative_iff (n mantissa : Nat) (exponent : Int) :
    (compareInt n true mantissa exponent).isLE = true ↔ n = 0 ∧ mantissa = 0 := by
  have opposite (a b : Nat) : (a : Int) ≤ -(b : Int) ↔ a = 0 ∧ b = 0 := by omega
  cases exponent with
  | ofNat up =>
    have power : Nat.pow 2 up ≠ 0 := (Nat.two_pow_pos up).ne'
    change (compare (n : Int) (-(mantissa : Int) * (Nat.pow 2 up : Nat))).isLE = true ↔ _
    rw [Std.isLE_compare, Int.neg_mul, ← Int.natCast_mul, opposite, Nat.mul_eq_zero,
      or_iff_left power]
  | negSucc down =>
    have power : Nat.pow 2 (down + 1) ≠ 0 := (Nat.two_pow_pos (down + 1)).ne'
    change (compare ((n : Int) * (Nat.pow 2 (down + 1) : Nat))
      (-(mantissa : Int))).isLE = true ↔ _
    rw [Std.isLE_compare, ← Int.natCast_mul, opposite, Nat.mul_eq_zero, or_iff_left power]

/-- The whole part of a finite double has at most one thousand and twenty-four bits. -/
theorem wholePart_lt {x : Float} {negative : Bool} {mantissa : Nat} {exponent : Int}
    (shape : Double.shape x = .finite negative mantissa exponent) :
    wholePart mantissa exponent < Nat.pow 2 1024 := by
  obtain ⟨narrow, -, low, -⟩ := normal_of_shape shape
  cases exponent with
  | ofNat up =>
    have least : up ≤ 971 := Int.ofNat_le.1 low
    calc mantissa * Nat.pow 2 up < 2 ^ 53 * 2 ^ up :=
          Nat.mul_lt_mul_of_pos_right narrow (Nat.two_pow_pos up)
      _ ≤ 2 ^ 53 * 2 ^ 971 := Nat.mul_le_mul_left _ (Nat.pow_le_pow_right (by decide) least)
      _ = Nat.pow 2 1024 := by decide +kernel
  | negSucc down =>
    calc mantissa / Nat.pow 2 (down + 1) ≤ mantissa := Nat.div_le_self ..
      _ < 2 ^ 53 := narrow
      _ ≤ Nat.pow 2 1024 := by decide +kernel

end Double

namespace Number

/-- The whole part of a number is the last whole number that is not above it. Negative numbers have
none, and neither have infinities and what is no number. -/
def HasWholePart (number : Number) (n : Nat) : Prop :=
  int n ≤ number ∧ ¬ int (n + 1 : Nat) ≤ number

theorem int_le_float_iff (n : Int) (x : Float) :
    int n ≤ float x ↔ (compareIntFloat n x).any Ordering.isLE = true := Iff.rfl

/-- A number at or above zero is its own whole part. -/
theorem hasWholePart_int (n : Nat) : (int n).HasWholePart n := by
  refine ⟨(int_le_int ..).2 (Int.le_refl _), fun above => ?_⟩
  have : ((n + 1 : Nat) : Int) ≤ n := (int_le_int ..).1 above
  omega

theorem not_hasWholePart_of_neg {n : Int} (negative : n < 0) (offset : Nat) :
    ¬ (int n).HasWholePart offset := by
  rintro ⟨below, -⟩
  have : (offset : Int) ≤ n := (int_le_int ..).1 below
  omega

section Doubles

variable {x : Float}

theorem hasWholePart_float {mantissa : Nat} {exponent : Int}
    (shape : Double.shape x = .finite false mantissa exponent) :
    (float x).HasWholePart (Double.wholePart mantissa exponent) := by
  have below (n : Nat) : int n ≤ float x ↔ n ≤ Double.wholePart mantissa exponent := by
    rw [int_le_float_iff, compareIntFloat, shape]
    exact Double.isLE_compareInt_iff n mantissa exponent
  rw [HasWholePart, below, below]
  exact ⟨le_rfl, Nat.not_succ_le_self _⟩

/-- What has a minus sign has no whole part, unless it is zero. -/
theorem hasWholePart_negative_iff {mantissa : Nat} {exponent : Int}
    (shape : Double.shape x = .finite true mantissa exponent) (n : Nat) :
    (float x).HasWholePart n ↔ n = 0 ∧ mantissa = 0 := by
  have below (n : Nat) : int n ≤ float x ↔ n = 0 ∧ mantissa = 0 := by
    rw [int_le_float_iff, compareIntFloat, shape]
    exact Double.isLE_compareInt_negative_iff n mantissa exponent
  rw [HasWholePart, below, below]
  exact and_iff_left fun both => Nat.succ_ne_zero n both.1

/-- What compares alike with all integers has no whole part. -/
theorem not_hasWholePart_of_alike {order : Option Ordering}
    (alike : ∀ n, compareIntFloat n x = order) (n : Nat) : ¬ (float x).HasWholePart n := by
  rintro ⟨below, above⟩
  rw [int_le_float_iff, alike] at below above
  exact above below

end Doubles

end Number

namespace Cursor

/-- What a cursor holds in the place of an offset; nothing if it spells no record. -/
def held (cursor : Option String) : Value :=
  match cursor.bind payload? with
  | some (.record fields) => Record.get fields "offset"
  | _ => .null

theorem decode_eq_offsetOf_held (cursor : Option String) :
    decode cursor = offsetOf (held cursor) := by
  cases cursor with
  | none => rfl
  | some cursor =>
    change (match payload? cursor with
      | some (.record fields) => offsetOf (Record.get fields "offset")
      | _ => .ok 0) =
      offsetOf (match payload? cursor with
      | some (.record fields) => Record.get fields "offset"
      | _ => .null)
    split <;> rfl

/-- A cursor holds no integer that has too many digits. -/
theorem isLegible_held (cursor : Option String) : (held cursor).isLegible = true := by
  unfold held
  split
  · rename_i fields spelled
    obtain ⟨text, -, spelled⟩ := Option.bind_eq_some_iff.1 spelled
    obtain ⟨octets, -, spelled⟩ := Option.bind_eq_some_iff.1 spelled
    obtain ⟨content, -, read⟩ := Option.bind_eq_some_iff.1 spelled
    exact Value.isLegible_get (Json.isLegible_of_read? read) "offset"
  · rfl

/-- The offset that a value stands for: the whole part of a number, and the start for what has
none. -/
inductive StandsFor (value : Value) : Nat → Prop
  | wholePart {number : Number} {offset : Nat} (is : value.number? = some number)
      (whole : number.HasWholePart offset) : StandsFor value offset
  | start (none : ∀ number, value.number? = some number →
      ∀ offset, ¬ number.HasWholePart offset) : StandsFor value 0

/-- What is no number stands for the start. -/
theorem standsFor_start {value : Value} (noNumber : value.number? = none) : StandsFor value 0 := by
  refine .start fun number is => ?_
  rw [noNumber] at is
  cases is

theorem standsFor_int (n : Int) : StandsFor (.int n) n.toNat := by
  rcases Int.lt_or_le n 0 with negative | nonnegative
  · have start : n.toNat = 0 := Int.toNat_of_nonpos (Int.le_of_lt negative)
    rw [start]
    refine .start fun number is => ?_
    cases is
    exact Number.not_hasWholePart_of_neg negative
  · obtain ⟨offset, rfl⟩ := Int.eq_ofNat_of_zero_le nonnegative
    exact .wholePart rfl (Number.hasWholePart_int offset)

/-- A double stands for an offset whatever it is. -/
theorem offsetOf_float (x : Float) :
    ∃ offset, offsetOf (.float x) = .ok offset ∧ StandsFor (.float x) offset := by
  have start (noWhole : ∀ offset, ¬ (Number.float x).HasWholePart offset) :
      StandsFor (.float x) 0 := by
    refine .start fun number is => ?_
    cases is
    exact noWhole
  rw [offsetOf]
  cases shape : Double.shape x with
  | notANumber =>
    have alike (n : Int) : Number.compareIntFloat n x = none := by
      rw [Number.compareIntFloat, shape]
    exact ⟨0, rfl, start (Number.not_hasWholePart_of_alike alike)⟩
  | infinite negative =>
    have alike (n : Int) :
        Number.compareIntFloat n x = some (if negative then .gt else .lt) := by
      rw [Number.compareIntFloat, shape]
    exact ⟨0, rfl, start (Number.not_hasWholePart_of_alike alike)⟩
  | finite negative mantissa exponent =>
    cases negative with
    | false =>
      exact ⟨_, rfl, .wholePart rfl (Number.hasWholePart_float shape)⟩
    | true =>
      refine ⟨0, rfl, ?_⟩
      have whole := Number.hasWholePart_negative_iff shape
      rcases Nat.eq_zero_or_pos mantissa with zero | positive
      · exact .wholePart rfl ((whole 0).2 ⟨rfl, zero⟩)
      · exact start fun offset is => positive.ne' ((whole offset).1 is).2

/-- No offset is longer than a double. -/
theorem lt_of_offsetOf {value : Value} {offset : Nat} (given : offsetOf value = .ok offset) :
    offset < Nat.pow 2 1024 := by
  have positive : 0 < Nat.pow 2 1024 := by decide +kernel
  cases value with
  | int n =>
    rw [offsetOf] at given
    split at given
    · rename_i fits
      cases given
      have below : Double.overflowBound ≤ Nat.pow 2 1024 := by decide +kernel
      have small : n.toNat ≤ n.natAbs := by omega
      exact small.trans_lt ((Double.fits_iff.1 fits).trans_le below)
    · cases given
  | float x =>
    rw [offsetOf] at given
    split at given
    · rename_i mantissa exponent shape
      cases given
      exact Double.wholePart_lt shape
    · cases given
      exact positive
  | null | bool _ | text _ | objectId _ | list _ | record _ =>
    cases given
    exact positive

theorem lt_of_decode {cursor : Option String} {offset : Nat}
    (decoded : decode cursor = .ok offset) :
    offset < Nat.pow 2 1024 := by
  rw [decode_eq_offsetOf_held] at decoded
  exact lt_of_offsetOf decoded

/-- A value stands for an offset unless it is an integer beyond the doubles. -/
theorem offsetOf_outcome (value : Value) :
    (∃ offset, offsetOf value = .ok offset ∧ StandsFor value offset ∧
        ∀ n, value = .int n → n.natAbs < Double.overflowBound) ∨
      ∃ n, value = .int n ∧ Double.overflowBound ≤ n.natAbs ∧
        offsetOf value = .error .integerTooLarge := by
  cases value with
  | int n =>
    by_cases fits : Double.fits n = true
    · have given : offsetOf (.int n) = .ok n.toNat := by rw [offsetOf, if_pos fits]
      refine .inl ⟨n.toNat, given, standsFor_int n, fun other same => ?_⟩
      cases same
      exact Double.fits_iff.1 fits
    · have fails : offsetOf (.int n) = .error .integerTooLarge := by rw [offsetOf, if_neg fits]
      rw [Double.fits_iff, Nat.not_lt] at fits
      exact .inr ⟨n, rfl, fits, fails⟩
  | float x =>
    obtain ⟨offset, given, stands⟩ := offsetOf_float x
    exact .inl ⟨offset, given, stands, fun n same => by cases same⟩
  | null | bool _ | text _ | objectId _ | list _ | record _ =>
    exact .inl ⟨0, rfl, standsFor_start rfl, fun n same => by cases same⟩

/-- **Any cursor stands for an offset, or holds an integer beyond the doubles.** The offset is the
whole part of the number that the cursor holds, and the start if that has none or there is no
number. The failure is always the same, and what fails has no more digits than can be read. -/
theorem decode_outcome (cursor : Option String) :
    (∃ offset, decode cursor = .ok offset ∧ StandsFor (held cursor) offset ∧
        ∀ n, held cursor = .int n → n.natAbs < Double.overflowBound) ∨
      ∃ n, held cursor = .int n ∧ Double.overflowBound ≤ n.natAbs ∧
        n.natAbs < Nat.pow 10 Value.digitLimit ∧ decode cursor = .error .integerTooLarge := by
  rw [decode_eq_offsetOf_held]
  refine (offsetOf_outcome (held cursor)).imp_right ?_
  rintro ⟨n, integer, beyond, fails⟩
  have legible := isLegible_held cursor
  rw [integer, Value.isLegible, Value.intLegible_iff] at legible
  exact ⟨n, integer, beyond, legible, fails⟩

/-- The cursor for an integer beyond the doubles fails. -/
theorem decode_encode_of_beyond {n : Int} (beyond : Double.overflowBound ≤ n.natAbs)
    (legible : Value.intLegible n = true) :
    decode (some (encode n)) = .error .integerTooLarge := by
  have noDouble : ¬ Double.fits n = true := by rwa [Double.fits_iff, Nat.not_lt]
  rw [decode_encode_eq legible, offsetOf, if_neg noDouble]

/-- An integer below all doubles is negative, and its cursor stands for no offset all the same. -/
theorem not_decoded_of_negative :
    -Int.pow 10 309 < 0 ∧
      ¬ ∃ offset, decode (some (encode (-Int.pow 10 309))) = .ok offset := by
  have beyond : Double.overflowBound ≤ (-Int.pow 10 309).natAbs := by decide +kernel
  have legible : Value.intLegible (-Int.pow 10 309) = true := by decide +kernel
  refine ⟨by decide +kernel, ?_⟩
  rintro ⟨offset, given⟩
  rw [decode_encode_of_beyond beyond legible] at given
  cases given

end Cursor

end ArenaStandings
