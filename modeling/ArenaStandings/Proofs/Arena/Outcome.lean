import ArenaStandings.Proofs.Arena.Figures
import ArenaStandings.Proofs.Game.Fields
import ArenaStandings.Proofs.Store.Writing

/-!
# Whether an arena has figures

The figures of an arena that is stored can be read whatever its rounds and eliminations hold, as
long as texts can be made of their identifiers. What else can go wrong lies with the arena itself:
its bag must be a record, or nothing at all. The fee is then the stake that the bag names, and zero
where that is no number (`ArenaStats.outcome_of_stored`).
-/

namespace ArenaStandings

namespace Double

variable {x y : Float} (finite : x.isFinite = true)

include finite

theorem beq_self_of_isFinite : (x == x) = true :=
  have number : x.isNaN = false := isNaN_of_isFinite finite
  (beq_iff_place_eq number number).2 rfl

theorem beq_comm_of_isFinite (finite' : y.isFinite = true) : (x == y) = (y == x) := by
  have number : x.isNaN = false := isNaN_of_isFinite finite
  have number' : y.isNaN = false := isNaN_of_isFinite finite'
  rw [Bool.eq_iff_iff, beq_iff_place_eq number number', beq_iff_place_eq number' number, eq_comm]

end Double

theorem Reader.double_int {n : Int} {x : Float} (near : Double.ofInt? n = some x) :
    double (.int n) = .valid x := by
  unfold double
  dsimp only
  rw [near]

namespace Value

/-- A value that is no number, or one that is finite as a double. -/
def IsPayable (value : Value) : Prop :=
  ∀ number ∈ value.number?, ∃ x ∈ number.toFloat?, x.isFinite = true

/-- The amount of a number is the double nearest to it. -/
theorem amount_of_number? {value : Value} {number : Number} {x : Float}
    (is : value.number? = some number) (near : number.toFloat? = some x)
    (finite : x.isFinite = true) : value.amount = x := by
  rw [amount_eq, is, Option.bind_some, near, Option.filter_some, if_pos finite, Option.getD_some]

end Value

namespace Arena

/-- The bag of an arena is a record, or there is none. -/
def BagAccepted (document : Record) : Prop :=
  document.get "metadata" = .null ∨ ∃ fields, document.get "metadata" = .record fields

/-- What the bag of an arena names as the stake. -/
def stakeIn (document : Record) : Value :=
  Record.get ((document.get "metadata").record?.getD []) "minStake"

theorem read_of_bagAccepted {document : Record} {arenaId : String}
    (named : document.get "_id" = .text arenaId) (accepted : BagAccepted document) :
    read document = .valid ⟨arenaId, (document.get "metadata").record?⟩ := by
  rw [read_eq named]
  rcases accepted with nothing | ⟨fields, bag⟩
  · rw [nothing]
    rfl
  · rw [bag]
    rfl

theorem read_of_not_bagAccepted {document : Record} {arenaId : String}
    (named : document.get "_id" = .text arenaId) (refused : ¬ BagAccepted document) :
    read document = .invalid [⟨.notRecord, [.key "metadata"]⟩] := by
  rw [read_eq named]
  cases bag : document.get "metadata" with
  | null => exact (refused (.inl bag)).elim
  | record fields => exact (refused (.inr ⟨fields, bag⟩)).elim
  | _ => rfl

theorem result_readById_of_stored {store : Store} {arenaId : String} {document : Record}
    (sound : store.arenas.fault = none)
    (stored : store.arenas.documents.find? (Condition.equals "_id" arenaId).holds = some document) :
    (readById arenaId).result store = (Arena.read document).orFail.map some := by
  have looked : (Read.findFirst ⟨.arenas, .equals "_id" arenaId⟩).result store =
      .ok (some document) :=
    Read.result_findFirst_eq_ok.2 ⟨sound, stored⟩
  rw [readById, Read.result_part, Read.result_bind_of_eq_ok looked]
  dsimp only
  rw [Read.result_map, Read.result_ofChecked]
  cases Arena.read document <;> rfl

end Arena

namespace ArenaStats

/-- The fee is what the stake stands for, as a number. -/
theorem feeOf_of_payable (arena : Arena) {stake : Value}
    (asked : Record.get (arena.metadata.getD []) "minStake" = stake) (payable : stake.IsPayable) :
    ∃ fee, feeOf arena = .valid fee ∧ fee.isFinite = true ∧ (fee == stake.amount) = true := by
  have zero : Float.isFinite 0 = true := by decide
  rw [feeOf, asked]
  cases stake with
  | int n =>
    obtain ⟨x, near, finite⟩ := payable (.int n) rfl
    rw [Value.amount_of_number? rfl near finite]
    refine ⟨x, ?_, finite, Double.beq_self_of_isFinite finite⟩
    dsimp only
    rw [Reader.double_int near]
    rfl
  | float x =>
    obtain ⟨_, ⟨⟩, finite⟩ := payable (.float x) rfl
    rw [Value.amount_of_number? rfl rfl finite]
    refine ⟨_, rfl, ?_⟩
    -- A negative zero counts as no stake, and the fee is a positive one.
    split
    · rename_i nothing
      exact ⟨zero, Double.beq_comm_of_isFinite finite zero ▸ nothing⟩
    · exact ⟨finite, Double.beq_self_of_isFinite finite⟩
  | _ => exact ⟨0, rfl, zero, Double.beq_self_of_isFinite zero⟩

variable {store : Store} {arenaId : String}

/-- Once the arena is read and its fee is told, nothing but an identifier stands in the way of
figures. -/
theorem succeedsIf_readLive (readable : store.Readable) {arena : Arena} {fee : Float}
    (found : (Arena.readById arenaId).result store = .ok (some arena))
    (told : feeOf arena = .valid fee) (moment : String) :
    (readLive arenaId moment).SucceedsIf store.IdsLegible store := by
  unfold readLive
  apply Read.SucceedsIf.bind (.of_eq_ok found)
  intro arena? found'
  cases found.symm.trans found'
  apply Read.SucceedsIf.bind (Round.succeedsIf_readOfArena (readable .rounds) arenaId)
  intro rounds _
  apply Read.SucceedsIf.bind
    (Elimination.succeedsIf_readOfRounds (readable .rounds) (readable .eliminations) _)
  intro eliminations _
  apply Read.SucceedsIf.of_eq_ok
  rw [Read.result_ofChecked, compute, told]
  rfl

/-- The fee that shows is that of the arena. -/
theorem entryFee_of_readLive {moment : String} {stats : ArenaStats} {arena : Arena} {fee : Float}
    (found : (Arena.readById arenaId).result store = .ok (some arena))
    (told : feeOf arena = .valid fee)
    (given : (readLive arenaId moment).result store = .ok stats) : stats.entryFee = fee := by
  obtain ⟨_, rounds, eliminations, found', -, -, computed⟩ := result_readLive_eq_ok.1 given
  cases found.symm.trans found'
  rw [compute, told] at computed
  exact congrArg entryFee (Checked.valid.inj computed).symm

/-- **Whether there are figures.** Let an arena be stored where nothing stands in the way of
reading. If its bag is accepted and the stake that it names is payable, then there are figures,
whatever its rounds and eliminations hold, unless an identifier among these has too many digits to
be written. The fee is finite, and is the stake if that is a number and zero otherwise. Any other
bag is refused for being no record. -/
theorem outcome_of_stored {document : Record} (readable : store.Readable)
    (stored : store.arenas.documents.find? (Condition.equals "_id" arenaId).holds = some document)
    (moment : String) :
    (Arena.BagAccepted document → (Arena.stakeIn document).IsPayable →
      (∃ stats, (readLive arenaId moment).result store = .ok stats ∧
        stats.entryFee.isFinite = true ∧
        (stats.entryFee == (Arena.stakeIn document).amount) = true) ∨
      (readLive arenaId moment).result store = .error .tooManyDigits ∧ ¬ store.IdsLegible) ∧
    (¬ Arena.BagAccepted document →
      (readLive arenaId moment).result store =
        .error (.invalid [⟨.notRecord, [.key "metadata"]⟩])) := by
  have named : document.get "_id" = .text arenaId :=
    Condition.holds_equals_iff.1 (List.find?_some stored)
  have looked := Arena.result_readById_of_stored (readable .arenas) stored
  constructor
  · intro accepted payable
    rw [Arena.read_of_bagAccepted named accepted] at looked
    obtain ⟨fee, told, finite, same⟩ :=
      feeOf_of_payable ⟨arenaId, (document.get "metadata").record?⟩ rfl payable
    rcases succeedsIf_readLive readable looked told moment with ⟨stats, given⟩ | refused
    · rw [← entryFee_of_readLive looked told given] at finite same
      exact .inl ⟨stats, given, finite, same⟩
    · exact .inr refused
  · intro refused
    rw [Arena.read_of_not_bagAccepted named refused] at looked
    rw [readLive, Read.result_bind, looked]
    rfl

/-- An arena whose bag names a stake, with a round that is no round, a round whose bag holds an
integer that cannot be written, and eliminations that name an integer, nothing and a list as the
user. -/
def odd : Store where
  rounds := ⟨[[("_id", .int 7), ("arena_id", .text "a"), ("metadata", .record [
      ("playerChoices", .list [.null, .record [("userId", .text "u"), ("stake", .text "much")],
        .record [("userId", .text "v"), ("stake", .int (.ofNat (Nat.pow 10 4300)))]])])],
    [("_id", .null), ("arena_id", .text "a"), ("state", .int 1)]], none⟩
  eliminations := ⟨[[("user_id", .int 1), ("round_id", .text "7")], [("round_id", .text "7")],
    [("user_id", .list []), ("round_id", .text "7"), ("arena_id", .bool true)]], none⟩
  users := ⟨[], none⟩
  arenas := ⟨[[("_id", .text "a"), ("metadata", .record [("minStake", .float 2.5)])]], none⟩

/-- It has figures with its stake as the fee. -/
theorem outcome_of_stored_odd :
    ∃ stats, (readLive "a" "noon").result odd = .ok stats ∧ stats.entryFee.isFinite = true ∧
      (stats.entryFee == 2.5) = true := by
  have readable : odd.Readable := by decide
  have legible : odd.IdsLegible := ⟨by decide +kernel, by decide +kernel⟩
  have stored : odd.arenas.documents.find? (Condition.equals "_id" "a").holds =
      some [("_id", .text "a"), ("metadata", .record [("minStake", .float 2.5)])] := rfl
  have payable : (Value.float 2.5).IsPayable := by
    intro number is
    cases is
    exact ⟨2.5, rfl, by decide +kernel⟩
  rcases (outcome_of_stored readable stored "noon").1 (.inr ⟨_, rfl⟩) payable with
    ⟨stats, given, finite, same⟩ | ⟨-, illegible⟩
  · exact ⟨stats, given, finite, same⟩
  · exact (illegible legible).elim

/-- An arena with a bag and with one round. -/
def bare (bag roundId : Value) : Store where
  rounds := ⟨[[("_id", roundId), ("arena_id", .text "a")]], none⟩
  eliminations := ⟨[], none⟩
  users := ⟨[], none⟩
  arenas := ⟨[[("_id", .text "a"), ("metadata", bag)]], none⟩

/-- No figures for a bag that is a text, for an identifier with too many digits and for a stake
beyond the doubles, and a fee that is infinite as the stake is. -/
theorem no_finite_fee_of_bare :
    ((readLive "a" "noon").result (bare (.text "x") (.text "r"))).map entryFee =
        .error (.invalid [⟨.notRecord, [.key "metadata"]⟩]) ∧
      ((readLive "a" "noon").result (bare .null (.int (.ofNat (Nat.pow 10 4300))))).map entryFee =
        .error .tooManyDigits ∧
      ((readLive "a" "noon").result
        (bare (.record [("minStake", .int (.ofNat (Nat.pow 10 400)))]) (.text "r"))).map entryFee =
        .error (.invalid [⟨.notNumber, [.key "entry_fee"]⟩]) ∧
      ((readLive "a" "noon").result
        (bare (.record [("minStake", .float (1 / 0))]) (.text "r"))).map
          (fun stats => stats.entryFee.isFinite) = .ok false := by
  refine ⟨?_, ?_, ?_, ?_⟩ <;> decide +kernel

end ArenaStats

end ArenaStandings
