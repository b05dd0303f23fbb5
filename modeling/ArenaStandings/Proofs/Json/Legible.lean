import ArenaStandings.Json.Reader
import ArenaStandings.Proofs.Decimal.Numerals

/-!
# What is read can be written

With the limit on digits the reader gives legible values only (`Json.isLegible_of_read?`): an
integer comes from an atom with few enough digits, and whatever has been read, in the open
containers too, stays legible from token to token (`Json.State.Legible`).
-/

namespace ArenaStandings

namespace Json

/-- An integer that is read has few enough digits. -/
theorem isLegible_of_number? {spelling : List Char} {value : Value}
    (read : number? (some Value.digitLimit) spelling = some value) : value.isLegible = true := by
  obtain ⟨numeral, taken, read⟩ := Option.bind_eq_some_iff.1 read
  dsimp only at read
  split at read
  · cases read
  · split at read
    · cases read
      rfl
    · split at read
      · cases read
      · rename_i short
        cases read
        have few : numeral.whole.length ≤ Value.digitLimit := by simpa using short
        rw [Value.isLegible, Value.intLegible]
        exact decide_eq_true (Numeral.natAbs_toInt_lt taken few)

theorem isLegible_of_atom? {spelling : List Char} {value : Value}
    (read : atom? (some Value.digitLimit) spelling = some value) : value.isLegible = true := by
  unfold atom? at read
  repeat' split at read
  all_goals first
    | exact isLegible_of_number? read
    | cases read; rfl

/-! ## States of the reader -/

/-- The values in a container are legible. -/
def Frame.Legible : Frame → Prop
  | .item items => ∀ item ∈ items, item.isLegible = true
  | .member fields _ => Value.fieldsLegible fields = true

/-- The values in a container are legible. -/
def Open.Legible : Open → Prop
  | .list items => ∀ item ∈ items, item.isLegible = true
  | .record fields => Value.fieldsLegible fields = true

/-- Everything that has been read is legible. -/
def State.Legible : State → Prop
  | .value frames => ∀ frame ∈ frames, frame.Legible
  | .listStart frames => ∀ frame ∈ frames, frame.Legible
  | .recordStart frames => ∀ frame ∈ frames, frame.Legible
  | .key fields frames => Value.fieldsLegible fields = true ∧ ∀ frame ∈ frames, frame.Legible
  | .colon fields _ frames => Value.fieldsLegible fields = true ∧
    ∀ frame ∈ frames, frame.Legible
  | .after container frames => container.Legible ∧ ∀ frame ∈ frames, frame.Legible
  | .done result => result.isLegible = true

/-- A record with one more legible field is legible. -/
theorem fieldsLegible_set {fields : Record} (legible : Value.fieldsLegible fields = true)
    (key : String) {value : Value} (written : value.isLegible = true) :
    Value.fieldsLegible (fields.set key value) = true := by
  induction fields with
  | nil => simpa [Record.set, Table.insertRows, Value.fieldsLegible] using written
  | cons field fields ih =>
    obtain ⟨other, old⟩ := field
    rw [Value.fieldsLegible, Bool.and_eq_true] at legible
    unfold Record.set Table.insertRows
    split
    · rw [Value.fieldsLegible, written, legible.2]
      rfl
    · rw [Value.fieldsLegible, legible.1]
      exact ih legible.2

/-- A legible value goes into the innermost container. -/
theorem legible_complete {value : Value} (written : value.isLegible = true) {frames : List Frame}
    (legible : ∀ frame ∈ frames, frame.Legible) : (complete value frames).Legible := by
  cases frames with
  | nil => exact written
  | cons frame frames =>
    obtain ⟨innermost, outer⟩ := List.forall_mem_cons.1 legible
    cases frame with
    | item items => exact ⟨List.forall_mem_cons.2 ⟨written, innermost⟩, outer⟩
    | member fields key => exact ⟨fieldsLegible_set innermost key written, outer⟩

theorem legible_begin? {frames : List Frame} (legible : ∀ frame ∈ frames, frame.Legible)
    {token : Token} {next : State}
    (begun : begin? (some Value.digitLimit) frames token = some next) : next.Legible := by
  cases token with
  | openList => cases begun; exact legible
  | openRecord => cases begun; exact legible
  | text content => cases begun; exact legible_complete rfl legible
  | atom spelling =>
    obtain ⟨value, read, rfl⟩ := Option.map_eq_some_iff.1 begun
    exact legible_complete (isLegible_of_atom? read) legible
  | closeList => cases begun
  | closeRecord => cases begun
  | comma => cases begun
  | colon => cases begun

/-- A token leaves everything legible that has been read. -/
theorem State.Legible.step? {state next : State} (legible : state.Legible) {token : Token}
    (stepped : step? (some Value.digitLimit) state token = some next) : next.Legible := by
  revert legible stepped
  fun_cases Json.step? (some Value.digitLimit) state token with
  | case1 frames => exact fun legible begun => legible_begin? legible begun
  | case2 frames =>
    rintro legible ⟨⟩
    exact legible_complete rfl legible
  | case3 frames inside =>
    intro legible begun
    have empty : Frame.Legible (.item []) := List.forall_mem_nil _
    exact legible_begin? (List.forall_mem_cons.2 ⟨empty, legible⟩) begun
  | case4 frames =>
    rintro legible ⟨⟩
    exact legible_complete rfl legible
  | case5 frames key =>
    rintro legible ⟨⟩
    exact ⟨rfl, legible⟩
  | case6 fields frames key =>
    rintro legible ⟨⟩
    exact legible
  | case7 fields key frames =>
    rintro ⟨members, outer⟩ ⟨⟩
    exact List.forall_mem_cons.2 ⟨members, outer⟩
  | case8 items frames =>
    rintro ⟨elements, outer⟩ ⟨⟩
    exact List.forall_mem_cons.2 ⟨elements, outer⟩
  | case9 items frames =>
    rintro ⟨elements, outer⟩ ⟨⟩
    refine legible_complete ?_ outer
    rw [Value.isLegible, Value.areLegible_iff]
    exact fun item member => elements item (List.mem_reverse.1 member)
  | case10 fields frames =>
    rintro legible ⟨⟩
    exact legible
  | case11 fields frames =>
    rintro ⟨members, outer⟩ ⟨⟩
    have whole : (Value.record fields).isLegible = true := members
    exact legible_complete whole outer
  | case12 => rintro - ⟨⟩

/-- Tokens leave everything legible that has been read. -/
theorem State.Legible.foldlM {tokens : List Token} {state last : State} (legible : state.Legible)
    (reached : tokens.foldlM (Json.step? (some Value.digitLimit)) state = some last) :
    last.Legible := by
  induction tokens generalizing state with
  | nil => cases reached; exact legible
  | cons token tokens ih =>
    rw [List.foldlM_cons] at reached
    obtain ⟨next, stepped, rest⟩ := Option.bind_eq_some_iff.1 reached
    exact ih (legible.step? stepped) rest

/-- **A value that is read is legible.** -/
theorem isLegible_of_read? {text : List Char} {value : Value}
    (read : read? (some Value.digitLimit) text = some value) : value.isLegible = true := by
  obtain ⟨tokens, -, read⟩ := Option.bind_eq_some_iff.1 read
  obtain ⟨last, reached, read⟩ := Option.bind_eq_some_iff.1 read
  have start : (State.value []).Legible := List.forall_mem_nil _
  have legible : last.Legible := start.foldlM reached
  cases last with
  | done result => cases read; exact legible
  | _ => cases read

end Json

end ArenaStandings
