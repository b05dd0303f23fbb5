import ArenaStandings.Proofs.Decimal.Integers
import ArenaStandings.Proofs.Game.Amounts
import ArenaStandings.Proofs.Game.Fields
import Mathlib.Data.List.Forall2
import Mathlib.Logic.Relation

/-!
# What is read from the bag of a round

The bag of a round is a value without a schema, and whatever it is, something is read from it. What
this is can be said without the reading (`Metadata.IsReadFrom`): in the order of the entries, one
choice and one payout for each entry that names a user, and amounts that are what the numbers in the
bag become as doubles, or zero. Nothing else is read from the bag, what is read passes its own
check, and entries that name nobody may be put into the bag anywhere (`Metadata.ofValue_exact`).
-/

namespace ArenaStandings

/-! ## Amounts -/

/-- What a number becomes as a double: a finite double stays as it is, and an integer is rounded. -/
inductive Number.Becomes : Number → Float → Prop
  | float {x : Float} (finite : x.isFinite = true) : Becomes (.float x) x
  | int {n : Int} {x : Float} (rounds : Double.Rounds n x) : Becomes (.int n) x

theorem Number.becomes_iff {number : Number} {x : Float} :
    number.Becomes x ↔ number.toFloat? = some x ∧ x.isFinite = true := by
  constructor
  · intro becomes
    cases becomes with
    | float finite => exact ⟨rfl, finite⟩
    | int rounds => exact ⟨Double.rounds_iff.1 rounds, rounds.isFinite⟩
  · intro made
    obtain ⟨near, finite⟩ := made
    cases number with
    | int n => exact .int (Double.rounds_iff.2 near)
    | float y =>
      cases near
      exact .float finite

namespace Value

/-- The amount that a value holds: what its number becomes as a double, and zero if it is no number
or the number becomes no double. -/
inductive HoldsAmount (value : Value) : Float → Prop
  | number {number : Number} {x : Float} (is : value.number? = some number)
    (becomes : number.Becomes x) : HoldsAmount value x
  | nothing (none : ∀ number, value.number? = some number → ∀ x, ¬ number.Becomes x) :
    HoldsAmount value 0

theorem becomes_of_number?_iff {value : Value} {x : Float} :
    (value.number?.bind Number.toFloat?).filter Float.isFinite = some x ↔
      ∃ number, value.number? = some number ∧ number.Becomes x := by
  simp only [Option.filter_eq_some_iff, Option.bind_eq_some_iff, Number.becomes_iff,
    ← exists_and_right, and_assoc]

/-- The amount that is read from a value is the one that the value holds. -/
theorem holdsAmount_iff {value : Value} {x : Float} : value.HoldsAmount x ↔ value.amount = x := by
  rw [amount_eq]
  constructor
  · intro holds
    cases holds with
    | number is becomes => rw [becomes_of_number?_iff.2 ⟨_, is, becomes⟩, Option.getD_some]
    | nothing none =>
      have nowhere : (value.number?.bind Number.toFloat?).filter Float.isFinite = Option.none := by
        refine Option.eq_none_iff_forall_ne_some.2 fun x made => ?_
        obtain ⟨number, is, becomes⟩ := becomes_of_number?_iff.1 made
        exact none number is x becomes
      rw [nowhere, Option.getD_none]
  · rintro rfl
    cases made : (value.number?.bind Number.toFloat?).filter Float.isFinite with
    | none =>
      refine .nothing fun number is x becomes => ?_
      rw [becomes_of_number?_iff.2 ⟨number, is, becomes⟩] at made
      cases made
    | some x =>
      obtain ⟨number, is, becomes⟩ := becomes_of_number?_iff.1 made
      exact .number is becomes

end Value

/-! ## Entries -/

/-- An entry names a user if it is a record with a text as its user. -/
def Value.NamesUser (entry : Value) : Prop :=
  ∃ fields userId, entry = .record fields ∧ Record.get fields "userId" = .text userId

section Entries

variable {α : Type} {entry : Value}

/-- Of an entry that names no user nothing is made. -/
theorem Metadata.entryOf?_eq_none_iff (make : Record → String → α) :
    entryOf? make entry = none ↔ ¬ entry.NamesUser := by
  rw [← not_iff_not, not_not, ← ne_eq, Option.ne_none_iff_exists']
  constructor
  · intro read
    obtain ⟨_, read⟩ := read
    obtain ⟨fields, userId, is, named, -⟩ := entryOf?_eq_some_iff.1 read
    exact ⟨fields, userId, is, named⟩
  · intro named
    obtain ⟨fields, userId, is, named⟩ := named
    exact ⟨_, entryOf?_eq_some_iff.2 ⟨fields, userId, is, named, rfl⟩⟩

instance : DecidablePred Value.NamesUser := fun _ =>
  decidable_of_iff _ (Option.isSome_iff_ne_none.trans
    (Metadata.entryOf?_eq_none_iff fun _ userId => userId).not_left)

theorem Choice.ofEntry?_eq_none_iff : ofEntry? entry = none ↔ ¬ entry.NamesUser :=
  Metadata.entryOf?_eq_none_iff _

theorem Payout.ofEntry?_eq_none_iff : ofEntry? entry = none ↔ ¬ entry.NamesUser :=
  Metadata.entryOf?_eq_none_iff _

/-- What is read from entries is read, one by one and in their order, from those that name a
user. -/
theorem Metadata.forall₂_iff {read : Value → Option α} {ReadFrom : Value → α → Prop}
    (skips : ∀ {entry}, read entry = none ↔ ¬ entry.NamesUser)
    (reads : ∀ {entry made}, ReadFrom entry made ↔ read entry = some made)
    {entries : List Value} {all : List α} :
    List.Forall₂ ReadFrom (entries.filter fun entry => entry.NamesUser) all ↔
      entries.filterMap read = all := by
  induction entries generalizing all with
  | nil => rw [List.filter_nil, List.forall₂_nil_left_iff, List.filterMap_nil, eq_comm]
  | cons entry entries ih =>
    by_cases named : entry.NamesUser
    · obtain ⟨made, made_eq⟩ := Option.ne_none_iff_exists'.1 (skips.not_left.2 named)
      rw [List.filter_cons_of_pos (by simpa using named), List.filterMap_cons_some made_eq,
        List.forall₂_cons_left_iff]
      simp only [ih, reads, made_eq]
      constructor
      · rintro ⟨_, rest, ⟨⟩, rfl, rfl⟩
        rfl
      · rintro rfl
        exact ⟨made, _, rfl, rfl, rfl⟩
    · rw [List.filter_cons_of_neg (by simpa using named),
        List.filterMap_cons_none (skips.2 named), ih]

end Entries

/-- A choice is read from a record with a text as its user: it has that user, a choice exactly where
the record has a text as the choice, and as its stake the amount that the record holds. -/
inductive Choice.IsReadFrom : Value → Choice → Prop
  | record {fields : Record} {choice : Choice} (user : fields.get "userId" = .text choice.userId)
    (kept : ∀ text, choice.choice = some text ↔ fields.get "choice" = .text text)
    (stake : (fields.get "stake").HoldsAmount choice.stake) : IsReadFrom (.record fields) choice

/-- A payout is read from a record with a text as its user. -/
inductive Payout.IsReadFrom : Value → Payout → Prop
  | record {fields : Record} {payout : Payout} (user : fields.get "userId" = .text payout.userId)
    (amount : (fields.get "amount").HoldsAmount payout.amount) : IsReadFrom (.record fields) payout

theorem Choice.isReadFrom_iff {entry : Value} {choice : Choice} :
    IsReadFrom entry choice ↔ ofEntry? entry = some choice := by
  rw [ofEntry?_eq, Metadata.entryOf?_eq_some_iff]
  constructor
  · intro read
    cases read with
    | @record fields _ user kept stake =>
      have text : (fields.get "choice").text? = choice.choice :=
        Option.ext fun text => Value.text?_eq_some_iff.trans (kept text).symm
      refine ⟨fields, choice.userId, rfl, user, ?_⟩
      rw [text, Value.holdsAmount_iff.1 stake]
  · rintro ⟨fields, userId, rfl, user, rfl⟩
    exact .record user (fun _ => Value.text?_eq_some_iff) (Value.holdsAmount_iff.2 rfl)

theorem Payout.isReadFrom_iff {entry : Value} {payout : Payout} :
    IsReadFrom entry payout ↔ ofEntry? entry = some payout := by
  rw [ofEntry?_eq, Metadata.entryOf?_eq_some_iff]
  constructor
  · intro read
    cases read with
    | @record fields _ user amount =>
      refine ⟨fields, payout.userId, rfl, user, ?_⟩
      rw [Value.holdsAmount_iff.1 amount]
  · rintro ⟨fields, userId, rfl, user, rfl⟩
    exact .record user (Value.holdsAmount_iff.2 rfl)

/-! ## The bag -/

/-- The value at the end of a path through records; where the path breaks off there is nothing. -/
def Value.reach : Value → List String → Value
  | value, [] => value
  | record fields, name :: path => reach (Record.get fields name) path
  | _, _ :: _ => null

namespace Metadata

/-- What is read from a bag: its choices and its payouts, in the order of the entries that name a
user, and its yield. -/
structure IsReadFrom (raw : Value) (metadata : Metadata) : Prop where
  choices : List.Forall₂ Choice.IsReadFrom
    ((raw.reach ["playerChoices"]).items.filter fun entry => entry.NamesUser) metadata.choices
  payouts : List.Forall₂ Payout.IsReadFrom
    ((raw.reach ["resolution", "payouts"]).items.filter fun entry => entry.NamesUser)
    metadata.payouts
  oracleYield : (raw.reach ["oracleYield"]).HoldsAmount metadata.oracleYield

theorem ofValue_eq (raw : Value) :
    ofValue raw =
      ⟨(raw.reach ["playerChoices"]).items.filterMap Choice.ofEntry?,
        (raw.reach ["resolution", "payouts"]).items.filterMap Payout.ofEntry?,
        (raw.reach ["oracleYield"]).amount⟩ := by
  cases raw with
  | record fields =>
    have payouts : payoutEntries fields =
        ((Value.record fields).reach ["resolution", "payouts"]).items := by
      unfold payoutEntries Value.reach
      cases Record.get fields "resolution" <;> rfl
    rw [ofValue, payouts]
    rfl
  | _ => rfl

/-- What is read from a bag is what `ofValue` makes of it, and nothing else. -/
theorem isReadFrom_iff {raw : Value} {metadata : Metadata} :
    metadata.IsReadFrom raw ↔ ofValue raw = metadata := by
  rw [ofValue_eq]
  constructor
  · intro read
    have choices := (forall₂_iff Choice.ofEntry?_eq_none_iff Choice.isReadFrom_iff).1 read.choices
    have payouts := (forall₂_iff Payout.ofEntry?_eq_none_iff Payout.isReadFrom_iff).1 read.payouts
    rw [choices, payouts, Value.holdsAmount_iff.1 read.oracleYield]
  · rintro rfl
    exact ⟨(forall₂_iff Choice.ofEntry?_eq_none_iff Choice.isReadFrom_iff).2 rfl,
      (forall₂_iff Payout.ofEntry?_eq_none_iff Payout.isReadFrom_iff).2 rfl,
      Value.holdsAmount_iff.2 rfl⟩

end Metadata

/-! ## Construction -/

/-- A list that is written element by element is read if its elements are. -/
theorem Reader.elements_map {α : Type} {read : Reader α} {write : α → Value}
    (reads : ∀ element, read (write element) = .valid element) (all : List α) (position : Nat) :
    elements read position (all.map write) = .valid all := by
  induction all generalizing position with
  | nil => rfl
  | cons element all ih =>
    rw [List.map_cons, elements, reads, ih]
    rfl

theorem Choice.read_toValue (choice : Choice) :
    Reader.part "PlayerChoice" read choice.toValue = .valid choice := by
  obtain ⟨userId, kept, stake⟩ := choice
  cases kept <;> rfl

theorem Payout.read_toValue (payout : Payout) :
    Reader.part "Payout" read payout.toValue = .valid payout := rfl

namespace Metadata

theorem read_toValue (metadata : Metadata) :
    Reader.part "RoundMetadata" read metadata.toValue = .valid metadata := by
  have choices := Reader.elements_map Choice.read_toValue metadata.choices 0
  have payouts := Reader.elements_map Payout.read_toValue metadata.payouts 0
  change Metadata.mk
    <$> (Reader.elements _ 0 (metadata.choices.map Choice.toValue)).under (.key "player_choices")
    <*> (Reader.elements _ 0 (metadata.payouts.map Payout.toValue)).under (.key "payouts")
    <*> .valid metadata.oracleYield = _
  rw [choices, payouts]
  rfl

/-- Metadata are sound if the check of the values that they are made from accepts them, with all
their parts, and every amount in them is finite. -/
structure IsSound (metadata : Metadata) : Prop where
  accepted : Reader.part "RoundMetadata" read metadata.toValue = .valid metadata
  stake : ∀ choice ∈ metadata.choices, choice.stake.isFinite = true
  amount : ∀ payout ∈ metadata.payouts, payout.amount.isFinite = true
  oracleYield : metadata.oracleYield.isFinite = true

end Metadata

/-! ## Entries that name nobody -/

/-- The second value is the first, except that the list at the end of a path has one more entry,
which names no user. -/
inductive Value.GainsAt : List String → Value → Value → Prop
  | list {earlier later : List Value} {entry : Value} (nobody : ¬ entry.NamesUser) :
    GainsAt [] (.list (earlier ++ later)) (.list (earlier ++ entry :: later))
  | field {fields : Record} {name : String} {path : List String} {value : Value}
    (gains : GainsAt path (fields.get name) value) :
    GainsAt (name :: path) (.record fields) (.record (fields.set name value))

section Gains

variable {α : Type} {path : List String} {raw raw' : Value}

/-- The list at the end of the path is as before, but for the entry. -/
theorem Value.GainsAt.exists_reach (gains : GainsAt path raw raw') :
    ∃ earlier entry later, ¬ entry.NamesUser ∧ raw.reach path = .list (earlier ++ later) ∧
      raw'.reach path = .list (earlier ++ entry :: later) := by
  induction gains with
  | list nobody => exact ⟨_, _, _, nobody, rfl, rfl⟩
  | field gains ih =>
    rw [reach, reach, Record.get_set, if_pos rfl]
    exact ih

/-- Paths that begin otherwise lead where they led. -/
theorem Value.GainsAt.reach_of_ne {first other : String} (gains : GainsAt (first :: path) raw raw')
    (differ : other ≠ first) (rest : List String) :
    raw'.reach (other :: rest) = raw.reach (other :: rest) := by
  cases gains with
  | field gains => rw [reach, reach, Record.get_set, if_neg differ]

/-- Nothing is read from the entry. -/
theorem Value.GainsAt.filterMap_eq {read : Value → Option α}
    (skips : ∀ {entry}, read entry = none ↔ ¬ entry.NamesUser)
    (gains : GainsAt path raw raw') :
    (raw'.reach path).items.filterMap read = (raw.reach path).items.filterMap read := by
  obtain ⟨earlier, entry, later, nobody, before, after⟩ := gains.exists_reach
  rw [before, after]
  change (earlier ++ entry :: later).filterMap read = (earlier ++ later).filterMap read
  rw [List.filterMap_append, List.filterMap_append, List.filterMap_cons_none (skips.2 nobody)]

end Gains

namespace Metadata

/-- An entry that names no user is put among the choices or among the payouts of a bag. -/
def Gains (raw raw' : Value) : Prop :=
  raw.GainsAt ["playerChoices"] raw' ∨ raw.GainsAt ["resolution", "payouts"] raw'

variable {raw raw' : Value}

/-- One more entry that names nobody does not change what is read. -/
theorem ofValue_of_gains (gains : Gains raw raw') : ofValue raw' = ofValue raw := by
  rw [ofValue_eq, ofValue_eq]
  rcases gains with choices | payouts
  · rw [choices.filterMap_eq Choice.ofEntry?_eq_none_iff, choices.reach_of_ne (by decide),
      choices.reach_of_ne (by decide)]
  · rw [payouts.filterMap_eq Payout.ofEntry?_eq_none_iff, payouts.reach_of_ne (by decide),
      payouts.reach_of_ne (by decide)]

/-- Nor do any number of them, in both lists. -/
theorem ofValue_of_gains_all (gains : Relation.ReflTransGen Gains raw raw') :
    ofValue raw' = ofValue raw := by
  induction gains with
  | refl => rfl
  | tail _ gains ih => rw [ofValue_of_gains gains, ih]

/-- **What is read from a bag.** Whatever the bag of a round is, what is read from it is what the
bag holds, entry by entry and amount by amount. It is sound, and entries that name nobody make no
difference to it, however many there are and wherever they stand. -/
theorem ofValue_exact (raw : Value) :
    (∀ metadata : Metadata, metadata.IsReadFrom raw ↔ ofValue raw = metadata) ∧
      (ofValue raw).IsSound ∧
      ∀ raw', Relation.ReflTransGen Gains raw raw' → ofValue raw' = ofValue raw :=
  ⟨fun _ => isReadFrom_iff,
    ⟨read_toValue _, fun _ => isFinite_stake, fun _ => isFinite_amount,
      isFinite_oracleYield raw⟩,
    fun _ => ofValue_of_gains_all⟩

/-- A bag with an infinite yield, by the entries of its two lists. -/
def bagOf (choices payouts : List Value) : Value :=
  .record [
    ("playerChoices", .list choices),
    ("resolution", .record [("payouts", .list payouts)]),
    ("oracleYield", .float (1 / 0))]

section BagOf

variable (earlier later others : List Value) {entry : Value} (nobody : ¬ entry.NamesUser)

include nobody

theorem gains_choice :
    Gains (bagOf (earlier ++ later) others) (bagOf (earlier ++ entry :: later) others) :=
  .inl (.field (.list nobody))

theorem gains_payout :
    Gains (bagOf others (earlier ++ later)) (bagOf others (earlier ++ entry :: later)) :=
  .inr (.field (.field (.list nobody)))

end BagOf

/-- An entry with a choice that is no text, and a stake beyond the doubles. -/
def oddChoice : Value :=
  .record [("userId", .text "u"), ("choice", .int 1), ("stake", .int (10 ^ 400))]

/-- An entry with an amount that lies halfway between two doubles. -/
def oddPayout : Value := .record [("userId", .text "v"), ("amount", .int 9007199254740993)]

/-- The two entries, and among them three that name nobody. -/
def oddBag : Value :=
  bagOf [.null, oddChoice, .record [("userId", .int 42)]] [oddPayout, .text "v"]

theorem gains_oddBag : Relation.ReflTransGen Gains (bagOf [oddChoice] [oddPayout]) oddBag := by
  have first : Gains (bagOf [oddChoice] [oddPayout]) (bagOf [.null, oddChoice] [oddPayout]) :=
    gains_choice [] [oddChoice] _ (by decide)
  have second : Gains (bagOf [.null, oddChoice] [oddPayout])
      (bagOf [.null, oddChoice, .record [("userId", .int 42)]] [oddPayout]) :=
    gains_choice [.null, oddChoice] [] _ (by decide)
  have third : Gains (bagOf [.null, oddChoice, .record [("userId", .int 42)]] [oddPayout]) oddBag :=
    gains_payout [oddPayout] [] _ (by decide)
  exact ((Relation.ReflTransGen.single first).tail second).tail third

/-- Of three entries among the choices and two among the payouts, one each is read. -/
theorem ofValue_exact_odd :
    Relation.ReflTransGen Gains (bagOf [oddChoice] [oddPayout]) oddBag ∧
      ofValue oddBag = ofValue (bagOf [oddChoice] [oddPayout]) ∧
      ofValue (bagOf [oddChoice] [oddPayout]) =
        ⟨[⟨"u", none, 0⟩], [⟨"v", 9007199254740992⟩], 0⟩ := by
  obtain ⟨read, -, unchanged⟩ := ofValue_exact (bagOf [oddChoice] [oddPayout])
  have kept : ∀ text, none = some text ↔ Value.int 1 = .text text :=
    fun _ => iff_of_false nofun nofun
  have stake : (Value.int (10 ^ 400)).HoldsAmount 0 := Value.holdsAmount_iff.2 (by decide +kernel)
  have amount : (Value.int 9007199254740993).HoldsAmount 9007199254740992 :=
    Value.holdsAmount_iff.2 (by decide +kernel)
  have oracleYield : (Value.float (1 / 0)).HoldsAmount 0 :=
    Value.holdsAmount_iff.2 (by decide +kernel)
  refine ⟨gains_oddBag, unchanged _ gains_oddBag, (read _).1 ⟨?_, ?_, oracleYield⟩⟩
  · exact .cons (.record rfl kept stake) .nil
  · exact .cons (.record rfl amount) .nil

end Metadata

end ArenaStandings
