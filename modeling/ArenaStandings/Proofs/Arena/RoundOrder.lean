import ArenaStandings.Proofs.Arena.Figures
import ArenaStandings.Proofs.Game.Fields
import ArenaStandings.Proofs.Store.Order

/-!
# The order of the rounds of an arena

The storage sorts the rounds of an arena by the values that are stored for their numbers, and the
numbers are read from these values afterwards: from integers, whole doubles, truth values and texts,
and zero where nothing is stored. Where both numbers come from amounts of one kind the two orders
are the same. They may differ where one round is sorted before another by the form of its number,
that is by the kind of the value or as a text; among numbers there is no such pair
(`Round.formsAgree_of_numbers`). The rounds come in the order of their numbers exactly if no such
pair is the wrong way round (`Round.FormsAgree`), and then the round that shows in the figures is
the one with the greatest number (`ArenaStats.ordered_iff_formsAgree`).
-/

namespace ArenaStandings

namespace Round

/-- Where the number of one round is sorted before that of another by its form, it is not the
greater one. Rounds that do not pass their check do not count. -/
def FormsAgree (documents : List Record) : Prop :=
  ∀ first ∈ documents, ∀ second ∈ documents,
    (first.get "round_number").PrecedesByForm (second.get "round_number") →
      ∀ round ∈ (ofDocument first).toOption, ∀ other ∈ (ofDocument second).toOption,
        round.number ≤ other.number

instance (documents : List Record) : Decidable (FormsAgree documents) :=
  inferInstanceAs (Decidable (∀ first ∈ documents, ∀ second ∈ documents, _ → _))

/-- Forms agree where every number is stored as a number. -/
theorem formsAgree_of_numbers {documents : List Record}
    (numbers : ∀ document ∈ documents, (document.get "round_number").number?.isSome = true) :
    FormsAgree documents := by
  have kind : ∀ value : Value, value.number?.isSome = true →
      value.kindRank = 1 ∧ value.text? = none := by
    intro value is
    cases value with
    | int | float => exact ⟨rfl, rfl⟩
    | null | bool | text | objectId | list | record => cases is
  intro first member second member' byForm
  obtain ⟨rank, wordless⟩ := kind _ (numbers first member)
  obtain ⟨rank', -⟩ := kind _ (numbers second member')
  rcases Value.precedesByForm_iff.1 byForm with lower | ⟨content, worded, -⟩
  · rw [rank, rank'] at lower
    exact (lt_irrefl 1 lower).elim
  · cases wordless.symm.trans worded

/-- Where the number of a round's document lies among all values. -/
def placeOfNumber (document : Record) : ℕ ×ₗ WithBot (ℤ ×ₗ ℚ) ×ₗ String :=
  (document.get "round_number").place

theorem inOrder_eq_byPlace (documents : List Record) :
    inOrder documents = documents.mergeSort (Sorting.byKey placeOfNumber) := by
  apply Sorting.mergeSort_eq_byKey
  intro first _ second _
  rw [Bool.eq_iff_iff, Value.mayPrecede_iff_place_le, Sorting.byKey_iff]
  rfl

/-- A round that is sorted before another has the lower number, unless it is sorted by form. -/
theorem precedesByForm_or_number_le {first second : Record} {round other : Round}
    (valid : ofDocument first = .valid round) (valid' : ofDocument second = .valid other)
    (below : placeOfNumber first ≤ placeOfNumber second) :
    (first.get "round_number").PrecedesByForm (second.get "round_number") ∨
      round.number ≤ other.number := by
  rcases number_of_ofDocument valid with ⟨nothing, zero⟩ | read
  · rcases number_of_ofDocument valid' with ⟨-, zero'⟩ | read'
    · rw [zero, zero']
      exact .inr le_rfl
    · rw [nothing]
      exact .inl (.kind (Value.kindRank_pos_of_integer read'))
  · rcases number_of_ofDocument valid' with ⟨nothing', -⟩ | read'
    · -- Nothing is sorted before what a number can be read from.
      have higher : Value.null.place < (first.get "round_number").place :=
        Value.place_lt_of_kindRank_lt (Value.kindRank_pos_of_integer read)
      rw [placeOfNumber, placeOfNumber, nothing'] at below
      exact (below.not_gt higher).elim
    · exact Value.precedesByForm_or_le read read' below

/-- Rounds come in the order of their numbers exactly if the forms of these agree with it. -/
theorem pairwise_number_iff_formsAgree (documents : List Record) :
    ((inOrder documents).filterMap fun document => (ofDocument document).toOption).Pairwise
        (fun first second => first.number ≤ second.number) ↔ FormsAgree documents := by
  have level : ∀ first ∈ documents, ∀ second ∈ documents,
      placeOfNumber first = placeOfNumber second →
        ∀ round, (ofDocument first).toOption = some round →
          ∀ other, (ofDocument second).toOption = some other →
            round.number ≤ other.number := by
    intro first _ second _ same round accepted other accepted'
    rcases precedesByForm_or_number_le (Checked.toOption_eq_some_iff.1 accepted)
      (Checked.toOption_eq_some_iff.1 accepted') same.le with byForm | le
    · exact (byForm.place_lt.ne same).elim
    · exact le
  rw [List.pairwise_filterMap, inOrder_eq_byPlace, Sorting.pairwise_mergeSort_byKey_iff level]
  constructor
  · intro ordered first member second member' byForm round accepted other accepted'
    exact ordered first member second member' byForm.place_lt round accepted other accepted'
  · intro agree first member second member' less round accepted other accepted'
    rcases precedesByForm_or_number_le (Checked.toOption_eq_some_iff.1 accepted)
      (Checked.toOption_eq_some_iff.1 accepted') less.le with byForm | le
    · exact agree first member second member' byForm round accepted other accepted'
    · exact le

/-- The last of rounds in the order of their numbers has the greatest number. -/
theorem number_le_of_getLast? {rounds : List Round}
    (ordered : rounds.Pairwise fun first second => first.number ≤ second.number) {latest : Round}
    (last : rounds.getLast? = some latest) :
    ∀ round ∈ rounds, round.number ≤ latest.number := by
  obtain ⟨earlier, rfl⟩ := List.getLast?_eq_some_iff.1 last
  intro round member
  rcases List.mem_append.1 member with before | here
  · exact (List.pairwise_append.1 ordered).2.2 round before latest (List.mem_singleton_self _)
  · rw [List.mem_singleton.1 here]

end Round

namespace ArenaStats

/-- **The order of the rounds.** The rounds of an arena come in the order of their numbers exactly
if the forms in which these are stored agree with it. The last of the rounds is the one that shows
in the figures, with its number, its stakes and its state, and if the forms agree no round has a
greater number. -/
theorem ordered_iff_formsAgree {store : Store} {arenaId : String} {rounds : List Round}
    (given : (Round.readOfArena arenaId).result store = .ok rounds) :
    let documents := store.rounds.documents.filter (Condition.equals "arena_id" arenaId).holds
    (rounds.Pairwise (fun first second => first.number ≤ second.number) ↔
        Round.FormsAgree documents) ∧
      ∀ latest, rounds.getLast? = some latest →
        (Round.FormsAgree documents → ∀ round ∈ rounds, round.number ≤ latest.number) ∧
          ∀ moment stats, (readLive arenaId moment).result store = .ok stats →
            stats.currentRound = latest.number ∧
              stats.currentPot =
                total ((Metadata.ofValue latest.metadata).choices.map Choice.stake) ∧
              stats.status = Case.lower latest.state := by
  intro documents
  have ordered : rounds.Pairwise (fun first second => first.number ≤ second.number) ↔
      Round.FormsAgree documents := by
    obtain ⟨-, -, rfl⟩ := Round.result_readOfArena_eq_ok.1 given
    exact Round.pairwise_number_iff_formsAgree documents
  refine ⟨ordered, fun latest last => ⟨fun agree => ?_, fun moment stats shown => ?_⟩⟩
  · exact Round.number_le_of_getLast? (ordered.2 agree) last
  · obtain ⟨arena, others, eliminations, -, listed, -, computed⟩ :=
      result_readLive_eq_ok.1 shown
    cases given.symm.trans listed
    obtain ⟨fee, -, rfl⟩ := Checked.map_eq_valid_iff.1 computed
    simp only [potOf, last, Option.elim_some, and_self]

/-- An arena whose rounds have no number, one that is no number, an integer, a whole double and a
text, as the storage sorts them. -/
def mixedForms : Store where
  rounds := ⟨[[("_id", .text "r"), ("arena_id", .text "a")],
    [("_id", .text "s"), ("arena_id", .text "a"), ("round_number", .null)],
    [("_id", .text "t"), ("arena_id", .text "a"), ("round_number", .int 1)],
    [("_id", .text "u"), ("arena_id", .text "a"), ("round_number", .float 2)],
    [("_id", .text "v"), ("arena_id", .text "a"), ("round_number", .text " 10 ")]], none⟩
  eliminations := ⟨[], none⟩
  users := ⟨[], none⟩
  arenas := ⟨[[("_id", .text "a")]], none⟩

/-- Forms that agree with the numbers: the rounds come in order, and the tenth shows. -/
theorem ordered_iff_formsAgree_mixed :
    Round.FormsAgree mixedForms.rounds.documents ∧
      ∃ rounds, (Round.readOfArena "a").result mixedForms = .ok rounds ∧
        rounds.map Round.number = [0, 1, 2, 10] ∧
        rounds.Pairwise (fun first second => first.number ≤ second.number) ∧
        ((readLive "a" "noon").result mixedForms).map currentRound = .ok 10 := by
  have read : (Round.readOfArena "a").result mixedForms = .ok _ :=
    Round.result_readOfArena_of_sorted rfl (by decide +kernel) (by decide +kernel)
  have agree : Round.FormsAgree mixedForms.rounds.documents := by decide +kernel
  refine ⟨agree, _, read, by decide +kernel, (ordered_iff_formsAgree read).1.2 agree, ?_⟩
  have arena : (Arena.readById "a").result mixedForms = .ok (some _) := rfl
  rw [result_readLive_of_rounds arena read]
  decide +kernel

/-- An arena whose two rounds have their numbers as texts, which are sorted digit by digit. -/
def textForms : Store where
  rounds := ⟨[[("_id", .text "r"), ("arena_id", .text "a"), ("round_number", .text "10")],
    [("_id", .text "s"), ("arena_id", .text "a"), ("round_number", .text "9")]], none⟩
  eliminations := ⟨[], none⟩
  users := ⟨[], none⟩
  arenas := ⟨[[("_id", .text "a")]], none⟩

/-- Numbers that are stored as texts need not come in order: the ninth round comes after the tenth,
and it is the one that shows. -/
theorem not_ordered_of_texts :
    ∃ rounds, (Round.readOfArena "a").result textForms = .ok rounds ∧
      rounds.map Round.number = [10, 9] ∧
      ¬ rounds.Pairwise (fun first second => first.number ≤ second.number) ∧
      ((readLive "a" "noon").result textForms).map currentRound = .ok 9 := by
  have read : (Round.readOfArena "a").result textForms = .ok _ :=
    Round.result_readOfArena_of_sorted rfl (by decide +kernel) (by decide +kernel)
  refine ⟨_, read, by decide +kernel, by decide +kernel, ?_⟩
  have arena : (Arena.readById "a").result textForms = .ok (some _) := rfl
  rw [result_readLive_of_rounds arena read]
  decide +kernel

end ArenaStats

end ArenaStandings
