import ArenaStandings.Proofs.Decimal.Exact
import ArenaStandings.Proofs.Sorting.Keys
import ArenaStandings.Schema.Reader
import ArenaStandings.Store.Order
import Mathlib.Data.Int.ConditionallyCompleteOrder
import Mathlib.Order.ConditionallyCompleteLattice.Basic

/-!
# Where stored values lie

The storage sorts values of all kinds by a comparison of its own. Every value has a place
(`Value.place`): its kind, then how much it is if it is a number or a truth value, then its text if
it is one. Values are compared as their places are (`Value.mayPrecede_iff_place_le`), so that
sorting puts them in a linear order. A value that is accepted for an integer and is no text lies
where that integer lies among the numbers (`Value.level_of_integer`), whichever kind it is of; the
place of a text says nothing of the integer that is read from it.
-/

namespace ArenaStandings

namespace Double

theorem isNaN_iff_level? (x : Float) : x.isNaN = true ↔ (shape x).level? = none := by
  change x.toModel.unpack.isNaN = true ↔ _
  rw [shape_eq]
  cases x.toModel.unpack with
  | notANumber => exact iff_of_true rfl rfl
  | infinity | zero | finite => exact iff_of_false Bool.false_ne_true (Option.some_ne_none _)

/-- A whole number is its whole part. -/
theorem valueOf_eq_wholePart {mantissa : Nat} {exponent : Int}
    (whole : isWhole mantissa exponent = true) :
    valueOf false mantissa exponent = wholePart mantissa exponent := by
  rw [valueOf_false]
  cases exponent with
  | ofNat up =>
    change (mantissa : ℚ) * 2 ^ ((up : ℕ) : ℤ) = ((mantissa * Nat.pow 2 up : ℕ) : ℚ)
    rw [Nat.cast_mul, cast_two_pow, zpow_natCast]
  | negSucc down =>
    have power : (2 : ℚ) ^ (down + 1) ≠ 0 := pow_ne_zero _ two_ne_zero
    have divides : mantissa / Nat.pow 2 (down + 1) * Nat.pow 2 (down + 1) = mantissa :=
      Nat.div_mul_cancel (Nat.dvd_of_mod_eq_zero (beq_iff_eq.1 whole))
    change (mantissa : ℚ) * 2 ^ Int.negSucc down = ((mantissa / Nat.pow 2 (down + 1) : ℕ) : ℚ)
    rw [zpow_negSucc, ← div_eq_mul_inv, div_eq_iff power, ← cast_two_pow, ← Nat.cast_mul,
      divides]

/-- A double that is read as an integer stands for this integer. -/
theorem level?_of_wholeFloat {x : Float} {n : Int} (read : Reader.wholeFloat x = .valid n) :
    (shape x).level? = some (toLex (0, (n : ℚ))) := by
  unfold Reader.wholeFloat at read
  split at read
  · rename_i negative mantissa exponent shaped
    split at read
    · cases read
    · rename_i whole
      have value := valueOf_eq_wholePart (by simpa using whole)
      dsimp only at read
      split at read
      · cases read
      · cases read
        rw [shaped, Shape.level?]
        cases negative with
        | false => simp [value]
        | true => simp [valueOf_negative, value]
  · cases read

end Double

namespace Value

/-! ## Places -/

/-- How much a number or a truth value is, below everything for what is no number. -/
def level : Value → WithBot (ℤ ×ₗ ℚ)
  | int n => (Number.int n).level?
  | float x => (Number.float x).level?
  | bool truth => some (toLex (0, if truth then 1 else 0))
  | _ => ⊥

/-- The text by which a value is sorted. -/
def caption : Value → String
  | text content => content
  | objectId hex => hex
  | _ => ""

/-- Where a value lies among the values of all kinds. -/
def place (value : Value) : ℕ ×ₗ WithBot (ℤ ×ₗ ℚ) ×ₗ String :=
  toLex (value.kindRank, toLex (value.level, value.caption))

theorem place_le_iff {first second : Value} :
    first.place ≤ second.place ↔
      first.kindRank < second.kindRank ∨
        first.kindRank = second.kindRank ∧
          (first.level < second.level ∨
            first.level = second.level ∧ first.caption ≤ second.caption) := by
  rw [place, place, Prod.Lex.toLex_le_toLex, Prod.Lex.toLex_le_toLex]

theorem place_lt_of_kindRank_lt {first second : Value} (less : first.kindRank < second.kindRank) :
    first.place < second.place :=
  Prod.Lex.toLex_lt_toLex.2 (.inl less)

theorem place_text_lt {first second : String} (less : first < second) :
    (text first).place < (text second).place := by
  refine Prod.Lex.toLex_lt_toLex.2 (.inr ⟨rfl, ?_⟩)
  exact Prod.Lex.toLex_lt_toLex.2 (.inr ⟨rfl, less⟩)

/-! ## The comparison of the storage -/

/-- Numbers are compared by how much they are, with what is not a number before them all. -/
theorem number_mayPrecede_iff (first second : Value) {m n : Number}
    (number : first.number? = some m) (number' : second.number? = some n) :
    (first.isNaN || !second.isNaN && decide (m ≤ n)) = true ↔ first.level ≤ second.level := by
  have leveled : ∀ {value : Value} {k : Number}, value.number? = some k →
      value.level = k.level? ∧ (value.isNaN = true ↔ k.level? = none) := by
    intro value k is
    cases value <;> cases is
    · exact ⟨rfl, iff_of_false Bool.false_ne_true (Option.some_ne_none _)⟩
    · exact ⟨rfl, Double.isNaN_iff_level? _⟩
  obtain ⟨level, nan⟩ := leveled number
  obtain ⟨level', nan'⟩ := leveled number'
  rw [level, level', Bool.or_eq_true, Bool.and_eq_true, Bool.not_eq_true', Bool.eq_false_iff, Ne,
    decide_eq_true_iff, nan, nan', Number.le_iff_level]
  cases m.level? with
  | none => exact iff_of_true (.inl rfl) bot_le
  | some u =>
    cases n.level? with
    | none =>
      have below : ¬ (u : WithBot (ℤ ×ₗ ℚ)) ≤ ⊥ := WithBot.not_coe_le_bot u
      exact iff_of_false (by simp) below
    | some v =>
      change _ ↔ (u : WithBot (ℤ ×ₗ ℚ)) ≤ v
      rw [WithBot.coe_le_coe]
      simp

/-- Values of one kind are compared by how much they are, or by their texts. -/
theorem mayPrecedeInKind_iff {first second : Value} (same : first.kindRank = second.kindRank) :
    mayPrecedeInKind first second = true ↔
      first.level < second.level ∨
        first.level = second.level ∧ first.caption ≤ second.caption := by
  have wordless : ∀ {first second : Value}, first.caption = "" → second.caption = "" →
      (first.level < second.level ∨
          first.level = second.level ∧ first.caption ≤ second.caption ↔
        first.level ≤ second.level) := by
    intro first second caption caption'
    have level : "" ≤ "" := le_refl ""
    rw [caption, caption', and_iff_left level, le_iff_lt_or_eq]
  have worded : ∀ {first second : String},
      ((⊥ : WithBot (ℤ ×ₗ ℚ)) < ⊥ ∨ (⊥ : WithBot (ℤ ×ₗ ℚ)) = ⊥ ∧ first ≤ second ↔
        first ≤ second) := by
    simp
  cases first with
  | null | list | record =>
    cases second <;> cases same
    exact iff_of_true rfl (.inr ⟨rfl, le_rfl⟩)
  | bool truth =>
    cases second <;> cases same
    rename_i truth'
    rw [wordless rfl rfl]
    cases truth <;> cases truth' <;> decide
  | int m =>
    cases second with
    | int n =>
      exact (number_mayPrecede_iff (int m) (int n) rfl rfl).trans (wordless rfl rfl).symm
    | float y =>
      exact (number_mayPrecede_iff (int m) (float y) rfl rfl).trans (wordless rfl rfl).symm
    | null | bool | text | objectId | list | record => cases same
  | float x =>
    cases second with
    | int n =>
      exact (number_mayPrecede_iff (float x) (int n) rfl rfl).trans (wordless rfl rfl).symm
    | float y =>
      exact (number_mayPrecede_iff (float x) (float y) rfl rfl).trans (wordless rfl rfl).symm
    | null | bool | text | objectId | list | record => cases same
  | text content =>
    cases second <;> cases same
    exact decide_eq_true_iff.trans worded.symm
  | objectId hex =>
    cases second <;> cases same
    exact decide_eq_true_iff.trans worded.symm

/-- **Values are compared as their places are.** -/
theorem mayPrecede_iff_place_le {first second : Value} :
    first.mayPrecede second = true ↔ first.place ≤ second.place := by
  rw [place_le_iff, mayPrecede]
  by_cases same : first.kindRank = second.kindRank
  · rw [if_pos same, mayPrecedeInKind_iff same]
    simp [same]
  · rw [if_neg same, decide_eq_true_iff]
    simp [same]

/-! ## Values that are read as integers -/

/-- What is read as an integer and is no text is as much as this integer, and has no text to be
sorted by. -/
theorem level_of_integer {value : Value} {n : Int} (read : Reader.integer value = .valid n)
    (wordless : value.text? = none) :
    value.level = (toLex (0, (n : ℚ)) : ℤ ×ₗ ℚ) ∧ value.caption = "" := by
  cases value with
  | int m =>
    cases read
    exact ⟨rfl, rfl⟩
  | bool truth =>
    cases read
    cases truth <;> exact ⟨rfl, rfl⟩
  | float x => exact ⟨Double.level?_of_wholeFloat read, rfl⟩
  | text content => cases wordless
  | null | objectId | list | record => cases read

theorem text?_eq_none_iff {value : Value} : value.text? = none ↔ value.kindRank ≠ 2 := by
  cases value <;> simp [text?, kindRank]

/-- What is read as an integer is something. -/
theorem kindRank_pos_of_integer {value : Value} {n : Int} (read : Reader.integer value = .valid n) :
    0 < value.kindRank := by
  cases value with
  | null => cases read
  | bool | int | float | text | objectId | list | record => exact Nat.succ_pos _

/-- The first of two values is sorted before the second by its kind, or as a text, and not by how
much it is. -/
inductive PrecedesByForm : Value → Value → Prop
  | kind {first second : Value} (lower : first.kindRank < second.kindRank) :
    PrecedesByForm first second
  | text {first second : String} (lower : first < second) :
    PrecedesByForm (.text first) (.text second)

theorem PrecedesByForm.place_lt {first second : Value} (byForm : first.PrecedesByForm second) :
    first.place < second.place := by
  cases byForm with
  | kind lower => exact place_lt_of_kindRank_lt lower
  | text lower => exact place_text_lt lower

theorem precedesByForm_iff {first second : Value} :
    first.PrecedesByForm second ↔ first.kindRank < second.kindRank ∨
      ∃ content ∈ first.text?, ∃ content' ∈ second.text?, content < content' := by
  constructor
  · intro byForm
    cases byForm with
    | kind lower => exact .inl lower
    | text lower => exact .inr ⟨_, rfl, _, rfl, lower⟩
  · rintro (lower | ⟨content, worded, content', worded', lower⟩)
    · exact .kind lower
    · rw [text?_eq_some_iff.1 worded, text?_eq_some_iff.1 worded']
      exact .text lower

instance (first second : Value) : Decidable (first.PrecedesByForm second) :=
  decidable_of_iff _ precedesByForm_iff.symm

/-- **Integers are sorted, but for their form.** Of two values that are read as integers the one
that is sorted first is the lower integer, unless it is sorted first by its form. -/
theorem precedesByForm_or_le {first second : Value} {m n : Int}
    (read : Reader.integer first = .valid m) (read' : Reader.integer second = .valid n)
    (below : first.place ≤ second.place) : first.PrecedesByForm second ∨ m ≤ n := by
  rcases place_le_iff.1 below with lower | ⟨same, within⟩
  · exact .inl (.kind lower)
  cases worded : first.text? with
  | some content =>
    rw [text?_eq_some_iff.1 worded] at read same within ⊢
    cases second with
    | text content' =>
      rcases within with less | ⟨-, captions⟩
      · exact (lt_irrefl _ less).elim
      rcases captions.lt_or_eq with less | equal
      · exact .inl (.text less)
      · cases equal
        cases read.symm.trans read'
        exact .inr le_rfl
    | null | bool | int | float | objectId | list | record => cases same
  | none =>
    have wordless : second.text? = none := by
      rw [text?_eq_none_iff, ← same]
      exact text?_eq_none_iff.1 worded
    obtain ⟨level, -⟩ := level_of_integer read worded
    obtain ⟨level', -⟩ := level_of_integer read' wordless
    have most : first.level ≤ second.level := by
      rcases within with less | ⟨equal, -⟩
      · exact less.le
      · exact equal.le
    rw [level, level', WithBot.coe_le_coe, Prod.Lex.toLex_le_toLex] at most
    rcases most with impossible | ⟨-, most⟩
    · exact (lt_irrefl _ impossible).elim
    · exact .inr (Int.cast_le.1 most)

end Value

end ArenaStandings
