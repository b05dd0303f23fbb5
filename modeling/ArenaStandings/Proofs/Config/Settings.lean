import ArenaStandings.Config.Startup

/-!
# Settings come from the environment

Settings can be read if each of them can, and then each is what the environment has under its name,
or the default if it has nothing there (`Settings.read_eq_valid_iff`). A service that has started
has the settings of its environment, and trusts the origins that they say
(`Startup.load_eq_ok_iff`).
-/

namespace ArenaStandings

namespace Settings

variable {environment : Environment} {settings : Settings}

/-- A setting that is a text can always be read. -/
theorem text_eq_valid_iff {name default value : String} :
    setting environment name .valid default = .valid value ↔
      (environment.find? name).getD default = value := by
  unfold setting
  cases environment.find? name with
  | none => simp
  | some text => rw [Checked.under_eq_valid_iff]; simp

/-- Settings that are those of an environment. -/
structure ReadFrom (settings : Settings) (environment : Environment) : Prop where
  storageAddress : (environment.find? "mongodb_uri").getD default.storageAddress =
    settings.storageAddress
  storageName : (environment.find? "mongodb_db_name").getD default.storageName =
    settings.storageName
  stage : (environment.find? "app_env").getD default.stage = settings.stage
  debug : setting environment "debug" readSwitch default.debug = .valid settings.debug
  logLevel : (environment.find? "log_level").getD default.logLevel = settings.logLevel
  origins : (environment.find? "cors_origins").getD default.origins = settings.origins
  cacheEnabled : setting environment "cache_enabled" readSwitch default.cacheEnabled =
    .valid settings.cacheEnabled
  leaderboardTtl : setting environment "leaderboard_cache_ttl_seconds" readInteger
    default.leaderboardTtl = .valid settings.leaderboardTtl
  arenaStatsTtl : setting environment "arena_stats_cache_ttl_seconds" readInteger
    default.arenaStatsTtl = .valid settings.arenaStatsTtl

/-- **What is read are the settings of the environment.** -/
theorem read_eq_valid_iff :
    read environment = .valid settings ↔ settings.ReadFrom environment := by
  constructor
  · intro valid
    simp only [read, Checked.seq_eq_valid_iff, Checked.map_eq_valid_iff] at valid
    obtain ⟨_, _, ⟨_, _, ⟨_, _, ⟨_, _, ⟨_, _, ⟨_, _, ⟨_, _, ⟨_, _,
      ⟨address, addressRead, rfl⟩, nameRead, rfl⟩, stageRead, rfl⟩, debugRead, rfl⟩,
      levelRead, rfl⟩, originsRead, rfl⟩, enabledRead, rfl⟩, pageTtlRead, rfl⟩,
      figuresTtlRead, rfl⟩ := valid
    exact ⟨text_eq_valid_iff.1 addressRead, text_eq_valid_iff.1 nameRead,
      text_eq_valid_iff.1 stageRead, debugRead, text_eq_valid_iff.1 levelRead,
      text_eq_valid_iff.1 originsRead, enabledRead, pageTtlRead, figuresTtlRead⟩
  · rintro ⟨address, name, stage, debug, level, origins, enabled, pageTtl, figuresTtl⟩
    have address := text_eq_valid_iff.2 address
    have name := text_eq_valid_iff.2 name
    have stage := text_eq_valid_iff.2 stage
    have level := text_eq_valid_iff.2 level
    have origins := text_eq_valid_iff.2 origins
    rw [read]
    dsimp only
    rw [address, name, stage, debug, level, origins, enabled, pageTtl, figuresTtl]
    rfl

end Settings

namespace Startup

/-- **A service that has started has the settings of its environment.** -/
theorem load_eq_ok_iff {environment : Environment} {startup : Startup} :
    load environment = .ok startup ↔
      startup.settings.ReadFrom environment ∧
        Severity.ofName? (Case.upper startup.settings.logLevel) = some startup.severity ∧
        startup.origins = originsOf startup.settings := by
  obtain ⟨settings, severity, origins⟩ := startup
  rw [← Settings.read_eq_valid_iff, load]
  cases Settings.read environment with
  | invalid issues => exact iff_of_false nofun fun started => nomatch started.1
  | valid found =>
    dsimp only [Checked.orFail, bind, Except.bind]
    cases known : Severity.ofName? (Case.upper found.logLevel) with
    | none =>
      refine iff_of_false nofun ?_
      rintro ⟨⟨⟩, named, -⟩
      cases known.symm.trans named
    | some level =>
      constructor
      · rintro ⟨⟩
        exact ⟨rfl, known, rfl⟩
      · rintro ⟨⟨⟩, named, rfl⟩
        cases known.symm.trans named
        rfl

end Startup

end ArenaStandings
