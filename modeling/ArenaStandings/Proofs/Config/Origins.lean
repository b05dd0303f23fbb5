import ArenaStandings.Proofs.Config.Settings
import ArenaStandings.Proofs.Text.Pieces

/-!
# Origins that are trusted

An environment trusts the origins on its list, and in production those that begin like the address
of a hosted site as well (`Environment.Trusts`). These are the origins that the service allows once
it has started (`Startup.allows_iff_trusts`).
-/

namespace ArenaStandings

namespace OriginPolicy

theorem occursIn_iff {part text : List Char} : occursIn part text = true ↔ part <:+: text := by
  induction text with
  | nil => rw [occursIn, List.isEmpty_iff, List.infix_nil]
  | cons character text ih =>
    rw [occursIn, Bool.or_eq_true, List.isPrefixOf_iff_prefix, ih, List.infix_cons_iff]

/-- An entry of a list of origins: a piece between commas without the blanks at its ends. -/
def IsEntry (text entry : String) : Prop :=
  ∃ piece, Split.IsPiece ',' text.toList piece ∧
    Blank.IsTrimmed Blank.isBlank piece entry.toList

theorem mem_parseList_iff {text entry : String} :
    entry ∈ parseList text ↔ IsEntry text entry := by
  rw [parseList, List.mem_map]
  refine exists_congr fun piece => and_congr Split.mem_all_iff ?_
  rw [← Blank.trim_eq_iff, ← String.toList_inj, String.toList_ofList]

/-- Where a hosted origin is looked for, a name on one line stands between the scheme and the
domain. -/
theorem beginsHosted_toList_iff {origin : List Char} :
    beginsHosted origin = true ↔
      ∃ name rest, '\n' ∉ name ∧ origin = hostedScheme ++ (name ++ hostedDomain ++ rest) := by
  rw [beginsHosted, Bool.and_eq_true, List.isPrefixOf_iff_prefix, occursIn_iff]
  constructor
  · rintro ⟨⟨tail, rfl⟩, name, rest, found⟩
    rw [List.drop_left] at found
    refine ⟨name, rest ++ tail.dropWhile (· ≠ '\n'), fun member => ?_, ?_⟩
    · have line : '\n' ∈ tail.takeWhile (· ≠ '\n') := by
        rw [← found]
        exact List.mem_append_left _ (List.mem_append_left _ member)
      exact absurd (List.mem_takeWhile_imp line) (by decide)
    · rw [← List.append_assoc (name ++ hostedDomain), found, List.takeWhile_append_dropWhile]
  · rintro ⟨name, rest, line, rfl⟩
    refine ⟨List.prefix_append .., ?_⟩
    have kept : ∀ character ∈ name ++ hostedDomain, decide (character ≠ '\n') = true := by
      have domain : hostedDomain.all (· ≠ '\n') = true := by decide
      refine List.forall_mem_append.2 ⟨fun character member => ?_, List.all_eq_true.1 domain⟩
      exact decide_eq_true fun same => line (same ▸ member)
    rw [List.drop_left, List.takeWhile_append_of_pos kept]
    exact ⟨name, _, rfl⟩

/-- The address of a hosted site: the secure scheme, a name on one line, and the domain of the
host. -/
def IsHosted (origin : String) : Prop :=
  ∃ name : String, '\n' ∉ name.toList ∧ origin = "https://" ++ name ++ ".vercel.app"

/-- A text that begins with the address of a hosted site; what follows is free. -/
def BeginsHosted (origin : String) : Prop := ∃ site rest, IsHosted site ∧ origin = site ++ rest

theorem beginsHosted_iff {origin : String} :
    beginsHosted origin.toList = true ↔ BeginsHosted origin := by
  rw [beginsHosted_toList_iff]
  constructor
  · rintro ⟨name, rest, line, spelled⟩
    have hosted : IsHosted ("https://" ++ String.ofList name ++ ".vercel.app") :=
      ⟨.ofList name, by rwa [String.toList_ofList], rfl⟩
    refine ⟨_, .ofList rest, hosted, ?_⟩
    rw [← String.toList_inj, spelled]
    simp only [String.toList_append, String.toList_ofList, List.append_assoc]
    rfl
  · rintro ⟨site, rest, ⟨name, line, hosted⟩, spelled⟩
    refine ⟨name.toList, rest.toList, line, ?_⟩
    rw [spelled, hosted]
    simp only [String.toList_append, List.append_assoc]
    rfl

theorem allows_iff {policy : OriginPolicy} {origin : String} :
    policy.allows origin = true ↔
      origin ≠ "" ∧
        (origin ∈ policy.listed ∨ policy.hosted = true ∧ BeginsHosted origin) := by
  rw [allows, Bool.and_eq_true, bne_iff_ne, Bool.or_eq_true, Bool.and_eq_true, beginsHosted_iff,
    List.contains_iff_mem]

end OriginPolicy

/-- **Which origins an environment trusts.** An origin is named, and it is an entry of the list, or
it begins like the address of a hosted site and the stage is production. -/
def Environment.Trusts (environment : Environment) (origin : String) : Prop :=
  origin ≠ "" ∧
    (OriginPolicy.IsEntry
        ((environment.find? "cors_origins").getD "http://localhost:3000") origin ∨
      (environment.find? "app_env").getD "development" = "production" ∧
        OriginPolicy.BeginsHosted origin)

/-- A service that has started allows the origins that its environment trusts. -/
theorem Startup.allows_iff_trusts {environment : Environment} {startup : Startup}
    (loaded : load environment = .ok startup) (origin : String) :
    startup.origins.allows origin = true ↔ environment.Trusts origin := by
  obtain ⟨read, -, origins⟩ := load_eq_ok_iff.1 loaded
  have stage : (environment.find? "app_env").getD "development" = startup.settings.stage :=
    read.stage
  have listed : (environment.find? "cors_origins").getD "http://localhost:3000" =
      startup.settings.origins := read.origins
  rw [OriginPolicy.allows_iff, origins, Environment.Trusts, stage, listed]
  change _ ∧ (origin ∈ OriginPolicy.parseList startup.settings.origins ∨
    (startup.settings.stage == "production") = true ∧ _) ↔ _
  rw [OriginPolicy.mem_parseList_iff, beq_iff_eq]

end ArenaStandings
