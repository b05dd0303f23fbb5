import ArenaStandings.Proofs.Store.Reading

/-!
# Reads that come to the same

Two outcomes are `Alike` if both are values that correspond, or both are the same failure. A read
from one store and a read from another are put together step by step: parts that are alike make
wholes that are alike (`Alike.bind`, `Read.alike_bind`, `Read.alike_part`). So what a read does not
depend on is what its primitive reads are alike without. For the reads behind the figures of an
arena, this leaves what two stores must have in common: the document of the arena, its rounds in
order, and which eliminations name them, with the arenas that are looked up for these
(`Elimination.alike_ofDocuments_of_looked`).
-/

namespace ArenaStandings

variable {α β γ δ : Type}

/-- Both are values, and these correspond, or both are one failure. -/
inductive Alike (Same : α → β → Prop) : Except Failure α → Except Failure β → Prop
  | ok {value : α} {value' : β} (same : Same value value') : Alike Same (.ok value) (.ok value')
  | error (failure : Failure) : Alike Same (.error failure) (.error failure)

namespace Alike

variable {Same : α → β → Prop} {outcome : Except Failure α} {outcome' : Except Failure β}

theorem refl (outcome : Except Failure α) : Alike Eq outcome outcome := by
  cases outcome with
  | ok value => exact .ok rfl
  | error failure => exact .error failure

/-- Values that correspond may be taken to be what the outcomes are. -/
theorem given (alike : Alike Same outcome outcome') :
    Alike (fun value value' => outcome = .ok value ∧ outcome' = .ok value' ∧ Same value value')
      outcome outcome' := by
  cases alike with
  | ok same => exact .ok ⟨rfl, rfl, same⟩
  | error failure => exact .error failure

theorem bind (alike : Alike Same outcome outcome') {Next : γ → δ → Prop}
    {next : α → Except Failure γ} {next' : β → Except Failure δ}
    (after : ∀ {value value'}, Same value value' → Alike Next (next value) (next' value')) :
    Alike Next (outcome >>= next) (outcome' >>= next') := by
  cases alike with
  | ok same => exact after same
  | error failure => exact .error failure

/-- Failures that are told in one way stay the same. -/
theorem mapError (alike : Alike Same outcome outcome') (told : Failure → Failure) :
    Alike Same (outcome.mapError told) (outcome'.mapError told) := by
  cases alike with
  | ok same => exact .ok same
  | error failure => exact .error (told failure)

/-- An outcome is alike to itself with a change made. -/
theorem map (outcome : Except Failure α) (change : α → β) :
    Alike (fun value value' => value' = change value) outcome (outcome.map change) := by
  cases outcome with
  | ok value => exact .ok rfl
  | error failure => exact .error failure

/-- Outcomes that are alike up to a change are equal once it is made. -/
theorem eq_map {change : α → β}
    (alike : Alike (fun value value' => value' = change value) outcome outcome') :
    outcome' = outcome.map change := by
  cases alike with
  | ok same => rw [same]; rfl
  | error failure => rfl

end Alike

namespace Read

variable {first second : Store} {Same : α → β → Prop} {read : Read α} {read' : Read β}

theorem alike_bind (alike : Alike Same (read.result first) (read'.result second))
    {Next : γ → δ → Prop} {next : α → Read γ} {next' : β → Read δ}
    (after : ∀ {value value'}, Same value value' →
      Alike Next ((next value).result first) ((next' value').result second)) :
    Alike Next ((read >>= next).result first) ((read' >>= next').result second) := by
  rw [result_bind, result_bind]
  exact alike.bind after

theorem alike_part (part : Part) (alike : Alike Same (read.result first) (read'.result second)) :
    Alike Same ((Read.part part read).result first) ((Read.part part read').result second) := by
  rw [result_part, result_part]
  exact alike.mapError _

/-- Collections with one fault, or else with documents that correspond, answer a query alike. -/
theorem alike_find {query : Query} {Same : List Record → List Record → Prop}
    (fault : (first.get query.shelf).fault = (second.get query.shelf).fault)
    (same : Same ((first.get query.shelf).documents.filter query.condition.holds)
      ((second.get query.shelf).documents.filter query.condition.holds)) :
    Alike Same ((find query).result first) ((find query).result second) := by
  rw [result_find, result_find, fault]
  cases (second.get query.shelf).fault with
  | none => exact .ok same
  | some fault => exact .error (.raised fault)

/-- What a query finds may be taken to be the documents that meet its condition. -/
theorem alike_find_documents {query : Query}
    (fault : (first.get query.shelf).fault = (second.get query.shelf).fault) :
    Alike (fun documents documents' =>
        (first.get query.shelf).documents.filter query.condition.holds = documents ∧
          (second.get query.shelf).documents.filter query.condition.holds = documents')
      ((find query).result first) ((find query).result second) :=
  alike_find fault ⟨rfl, rfl⟩

theorem alike_findFirst {query : Query}
    (fault : (first.get query.shelf).fault = (second.get query.shelf).fault)
    (same : (first.get query.shelf).documents.find? query.condition.holds =
      (second.get query.shelf).documents.find? query.condition.holds) :
    Alike Eq ((findFirst query).result first) ((findFirst query).result second) := by
  rw [result_findFirst, result_findFirst, fault, same]
  exact .refl _

theorem alike_ofChecked (checked : Checked α) :
    Alike Eq ((ofChecked checked).result first) ((ofChecked checked).result second) := by
  rw [result_ofChecked, result_ofChecked]
  exact .refl _

/-- Lists with the same values are not told apart where texts are to be made of them. -/
theorem alike_requireLegible {values values' : List Value}
    (same : ∀ value, value ∈ values ↔ value ∈ values') :
    Alike Eq ((requireLegible values).result first) ((requireLegible values').result second) := by
  have legible : Value.areLegible values = Value.areLegible values' := by
    rw [Bool.eq_iff_iff, Value.areLegible_iff, Value.areLegible_iff]
    simp only [same]
  rw [result_requireLegible, result_requireLegible, legible]
  exact .refl _

theorem alike_log (lines lines' : List LogLine) :
    Alike Eq ((log lines).result first) ((log lines').result second) :=
  .ok rfl

end Read

/-! ## The reads behind the figures of an arena -/

variable {first second : Store} {arenaId : String}

theorem Arena.alike_readById_of_find? (fault : first.arenas.fault = second.arenas.fault)
    (same : first.arenas.documents.find? (Condition.equals "_id" arenaId).holds =
      second.arenas.documents.find? (Condition.equals "_id" arenaId).holds) :
    Alike Eq ((readById arenaId).result first) ((readById arenaId).result second) := by
  apply Read.alike_part
  apply Read.alike_bind
  · exact Read.alike_findFirst fault same
  rintro document _ rfl
  cases document with
  | none => exact .ok rfl
  | some document =>
    apply Read.alike_bind (Read.alike_ofChecked (Arena.read document))
    rintro arena _ rfl
    exact .ok rfl

theorem Round.alike_readOfArena_of_inOrder (fault : first.rounds.fault = second.rounds.fault)
    (same : inOrder (first.rounds.documents.filter (Condition.equals "arena_id" arenaId).holds) =
      inOrder (second.rounds.documents.filter (Condition.equals "arena_id" arenaId).holds)) :
    Alike Eq ((readOfArena arenaId).result first) ((readOfArena arenaId).result second) := by
  have found : Alike (fun documents documents' => inOrder documents = inOrder documents')
      ((Read.find ⟨.rounds, .equals "arena_id" arenaId⟩).result first)
      ((Read.find ⟨.rounds, .equals "arena_id" arenaId⟩).result second) :=
    Read.alike_find fault same
  apply Read.alike_part
  apply Read.alike_bind found
  intro documents documents' same
  dsimp only
  rw [same]
  apply Read.alike_bind (Read.alike_requireLegible fun _ => Iff.rfl)
  rintro _ _ rfl
  apply Read.alike_bind (Read.alike_log _ _)
  rintro _ _ rfl
  exact .ok rfl

namespace Elimination

theorem labels_congr {arenas arenas' : Table String String} {document : Record}
    (same : arenaId? arenas document = arenaId? arenas' document) :
    labels arenas document = labels arenas' document := by
  rw [labels, labels, same]

theorem ofDocument?_congr {arenas arenas' : Table String String} {document : Record}
    (same : arenaId? arenas document = arenaId? arenas' document) :
    ofDocument? arenas document = ofDocument? arenas' document := by
  rw [ofDocument?, ofDocument?, same]

/-- Which eliminations documents come to depends on which documents these are, and on the arenas
that are looked up for them; neither the order of the documents nor their repetition matters. -/
theorem alike_ofDocuments_of_looked {documents documents' : List Record}
    (same : ∀ document, document ∈ documents ↔ document ∈ documents')
    (looked : Alike (fun arenas arenas' =>
        ∀ document ∈ documents, arenaId? arenas document = arenaId? arenas' document)
      ((readArenasOfRounds (lookedUp documents)).result first)
      ((readArenasOfRounds (lookedUp documents')).result second)) :
    Alike (fun eliminations eliminations' =>
        ∀ elimination, elimination ∈ eliminations ↔ elimination ∈ eliminations')
      ((ofDocuments documents).result first) ((ofDocuments documents').result second) := by
  apply Read.alike_bind
  · refine Read.alike_requireLegible fun value => ?_
    simp only [List.mem_map, List.mem_filter, same]
  rintro _ _ -
  apply Read.alike_bind looked
  intro arenas arenas' found
  apply Read.alike_bind
  · refine Read.alike_requireLegible fun value => ?_
    simp only [List.mem_flatMap, ← same]
    exact exists_congr fun document => and_congr_right fun member => by
      rw [labels_congr (found document member)]
  rintro _ _ -
  apply Read.alike_bind (Read.alike_log _ _)
  rintro _ _ -
  refine .ok fun elimination => ?_
  simp only [List.mem_filterMap, ← same]
  exact exists_congr fun document => and_congr_right fun member => by
    rw [ofDocument?_congr (found document member)]

/-- The eliminations from rounds are alike if those of the documents that name them are. -/
theorem alike_readOfRounds_of_documents {roundIds : List String}
    (fault : first.eliminations.fault = second.eliminations.fault)
    (made : Alike (fun eliminations eliminations' =>
        ∀ elimination, elimination ∈ eliminations ↔ elimination ∈ eliminations')
      ((ofDocuments (first.eliminations.documents.filter
        (Condition.among "round_id" roundIds).holds)).result first)
      ((ofDocuments (second.eliminations.documents.filter
        (Condition.among "round_id" roundIds).holds)).result second)) :
    Alike (fun eliminations eliminations' =>
        ∀ elimination, elimination ∈ eliminations ↔ elimination ∈ eliminations')
      ((readOfRounds roundIds).result first) ((readOfRounds roundIds).result second) := by
  apply Read.alike_part
  split
  · exact .ok fun _ => Iff.rfl
  apply Read.alike_bind
  · exact Read.alike_find_documents fault
  intro documents documents' found
  obtain ⟨rfl, rfl⟩ := found
  exact made

end Elimination

end ArenaStandings
