import ArenaStandings.Store.Rounds

/-!
# What the fields of a document make of it

A record that is checked field by field is accepted when each of its fields is, and its parts are
then what is read from them (`Round.read_eq_valid_iff`). For the document of a round this says where
the number of the round comes from (`Round.number_of_ofDocument`), and for that of an arena when it
is accepted and what is wrong otherwise (`Arena.read_eq`).
-/

namespace ArenaStandings

namespace Record

theorem get?_set (document : Record) (name other : String) (value : Value) :
    (document.set name value).get? other =
      if other = name then some value else document.get? other :=
  Table.lookupRows_insertRows name other value document

theorem get_set (document : Record) (name other : String) (value : Value) :
    (document.set name value).get other = if other = name then value else document.get other := by
  unfold get
  rw [get?_set]
  split <;> rfl

theorem get_eq_of_get? {document : Record} {name : String} {value : Value}
    (found : document.get? name = some value) : document.get name = value := by
  rw [get, found]
  rfl

theorem get?_of_get {document : Record} {name : String} {value : Value}
    (found : document.get name = value) (something : value ≠ .null) :
    document.get? name = some value := by
  unfold get at found
  cases stored : document.get? name with
  | none =>
    rw [stored] at found
    exact (something found.symm).elim
  | some other =>
    rw [stored] at found
    exact congrArg some found

end Record

namespace Schema

variable {α : Type} {fields : Record} {name : String} {read : Reader α}

theorem field_of_get? {value : Value} (found : fields.get? name = some value)
    (names : List String) :
    field fields (name :: names) read = (read value).under (.key name) := by
  simp [field, locate, found]

theorem optional_of_get? {value : Value} (found : fields.get? name = some value) (default : α) :
    optional fields [name] read default = (read value).under (.key name) := by
  simp [optional, locate, found]

theorem optional_of_absent (absent : fields.get? name = none) (default : α) :
    optional fields [name] read default = .valid default := by
  simp [optional, locate, absent]

end Schema

namespace Round

/-- A record is that of a round when its fields are those of the round. -/
theorem read_eq_valid_iff {fields : Record} {round : Round} :
    read fields = .valid round ↔
      Schema.field fields ["_id", "id"] Reader.text = .valid round.id ∧
        Schema.field fields ["arena_id"] Reader.text = .valid round.arenaId ∧
        Schema.optional fields ["round_number"] Reader.integer 0 = .valid round.number ∧
        Schema.optional fields ["state"] Reader.text "OPEN" = .valid round.state ∧
        Schema.optional fields ["metadata"] Reader.any .null = .valid round.metadata := by
  simp only [read, Checked.seq_eq_valid_iff, Checked.map_eq_valid_iff]
  constructor
  · intro accepted
    obtain ⟨_, _, ⟨_, _, ⟨_, _, ⟨_, _, ⟨_, id, rfl⟩, arena, rfl⟩, number, rfl⟩, state, rfl⟩,
      bag, rfl⟩ := accepted
    exact ⟨id, arena, number, state, bag⟩
  · intro accepted
    obtain ⟨id, arena, number, state, bag⟩ := accepted
    exact ⟨_, _, ⟨_, _, ⟨_, _, ⟨_, _, ⟨_, id, rfl⟩, arena, rfl⟩, number, rfl⟩, state, rfl⟩,
      bag, rfl⟩

variable {document : Record} {round : Round} (valid : ofDocument document = .valid round)

include valid

/-- A round that passes its check has the text of its identifier. -/
theorem id_of_ofDocument : round.id = (document.get "_id").toText := by
  have written : (document.set "_id" (.text (document.get "_id").toText)).get? "_id" =
      some (.text (document.get "_id").toText) := by
    rw [Record.get?_set, if_pos rfl]
  obtain ⟨identifier, -⟩ := read_eq_valid_iff.1 valid
  rw [Schema.field_of_get? written] at identifier
  exact (Checked.valid.inj identifier).symm

/-- The number of a round is read from its document, and is zero if the document says nothing of
it. -/
theorem number_of_ofDocument :
    document.get "round_number" = .null ∧ round.number = 0 ∨
      Reader.integer (document.get "round_number") = .valid round.number := by
  have kept : (document.set "_id" (.text (document.get "_id").toText)).get? "round_number" =
      document.get? "round_number" := by
    rw [Record.get?_set, if_neg (by decide)]
  obtain ⟨-, -, number, -, -⟩ := read_eq_valid_iff.1 valid
  cases stored : document.get? "round_number" with
  | none =>
    rw [Schema.optional_of_absent (kept.trans stored)] at number
    exact .inl ⟨congrArg (·.getD .null) stored, (Checked.valid.inj number).symm⟩
  | some value =>
    rw [Schema.optional_of_get? (kept.trans stored), Checked.under_eq_valid_iff] at number
    rw [Record.get_eq_of_get? stored]
    exact .inr number

end Round

namespace Arena

/-- The document of an arena is accepted when its metadata is nothing or a record, and for that
alone. -/
theorem read_eq {document : Record} {arenaId : String}
    (named : document.get "_id" = .text arenaId) :
    read document =
      match document.get "metadata" with
      | .null => .valid ⟨arenaId, none⟩
      | .record fields => .valid ⟨arenaId, some fields⟩
      | _ => .invalid [⟨.notRecord, [.key "metadata"]⟩] := by
  have identifier : Schema.field document ["_id", "id"] Reader.text = .valid arenaId :=
    Schema.field_of_get? (Record.get?_of_get named Value.noConfusion) ["id"]
  rw [read, identifier]
  cases stored : document.get? "metadata" with
  | none =>
    rw [Schema.optional_of_absent stored, Record.get, stored]
    rfl
  | some value =>
    rw [Schema.optional_of_get? stored, Record.get_eq_of_get? stored]
    cases value <;> rfl

end Arena

end ArenaStandings
