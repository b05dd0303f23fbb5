import ArenaStandings.Game.Metadata
import ArenaStandings.Store.Order

/-!
# Amounts are finite

Whatever lies in the bag of a round, the amounts that are read from it are finite doubles: each
payout (`Metadata.isFinite_amount`), each stake (`Metadata.isFinite_stake`) and the yield
(`Metadata.isFinite_oracleYield`).
-/

namespace ArenaStandings

theorem Double.isFinite_getD_filter (double? : Option Float) :
    ((double?.filter Float.isFinite).getD 0).isFinite = true := by
  cases kept : double?.filter Float.isFinite with
  | none => decide
  | some x => exact (Option.filter_eq_some_iff.1 kept).2

/-- An amount is finite, whatever value it is taken from. -/
theorem Value.isFinite_amount (value : Value) : value.amount.isFinite = true :=
  Double.isFinite_getD_filter _

/-- The amount of a number is the double that it becomes, if that is finite. -/
theorem Value.amount_eq (value : Value) :
    value.amount = ((value.number?.bind Number.toFloat?).filter Float.isFinite).getD 0 := by
  unfold amount
  cases value with
  | int | float => rw [number?, Option.bind_some, Number.toFloat?]
  | _ => rfl

namespace Metadata

section Entries

variable {α : Type} {make : Record → String → α} {made : α}

/-- What is made of an entry, if it is a record with a text as its user. -/
def entryOf? (make : Record → String → α) (entry : Value) : Option α :=
  entry.record?.bind fun fields => (fields.get "userId").text?.map (make fields)

theorem entryOf?_eq_some_iff {entry : Value} :
    entryOf? make entry = some made ↔
      ∃ fields userId, entry = .record fields ∧ Record.get fields "userId" = .text userId ∧
        make fields userId = made := by
  simp only [entryOf?, Option.bind_eq_some_iff, Option.map_eq_some_iff, Value.record?_eq_some_iff,
    Value.text?_eq_some_iff, exists_and_left]

/-- Whatever is made of entries is made of a record and a user. -/
theorem exists_record_of_mem {items : List Value}
    (member : made ∈ items.filterMap (entryOf? make)) :
    ∃ fields userId, make fields userId = made := by
  obtain ⟨entry, -, read⟩ := List.mem_filterMap.1 member
  obtain ⟨fields, userId, -, -, is⟩ := entryOf?_eq_some_iff.1 read
  exact ⟨fields, userId, is⟩

end Entries

end Metadata

theorem Choice.ofEntry?_eq :
    ofEntry? = Metadata.entryOf? fun fields userId =>
      ⟨userId, (fields.get "choice").text?, (fields.get "stake").amount⟩ := rfl

theorem Payout.ofEntry?_eq :
    ofEntry? = Metadata.entryOf? fun fields userId =>
      ⟨userId, (fields.get "amount").amount⟩ := rfl

namespace Metadata

/-- Every payout of a bag is a finite amount. -/
theorem isFinite_amount {metadata : Value} {payout : Payout}
    (member : payout ∈ (ofValue metadata).payouts) : payout.amount.isFinite = true := by
  cases metadata with
  | record fields =>
    obtain ⟨entry, userId, rfl⟩ := exists_record_of_mem member
    exact Value.isFinite_amount _
  | _ => cases member

/-- Every stake of a bag is finite. -/
theorem isFinite_stake {metadata : Value} {choice : Choice}
    (member : choice ∈ (ofValue metadata).choices) : choice.stake.isFinite = true := by
  cases metadata with
  | record fields =>
    obtain ⟨entry, userId, rfl⟩ := exists_record_of_mem member
    exact Value.isFinite_amount _
  | _ => cases member

theorem isFinite_oracleYield (metadata : Value) :
    (ofValue metadata).oracleYield.isFinite = true := by
  have zero : Float.isFinite 0 = true := by decide
  cases metadata with
  | record fields => exact Value.isFinite_amount _
  | _ => exact zero

end Metadata

end ArenaStandings
