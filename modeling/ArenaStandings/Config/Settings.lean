import ArenaStandings.Schema.Reader

/-!
# Settings

The settings are read from an environment of named texts. The names do not depend on letter case,
and of two names that differ only in case the later counts. A setting that is not there has a
default; all settings that cannot be read are reported together.
-/

namespace ArenaStandings

/-- Named texts. -/
abbrev Environment := List (String × String)

/-- The text under a name in small letters. -/
def Environment.find? (environment : Environment) (name : String) : Option String :=
  (environment.reverse.find? fun entry => Case.lower entry.1 == name).map Prod.snd

structure Settings where
  storageAddress : String
  storageName : String
  stage : String
  debug : Bool
  logLevel : String
  origins : String
  cacheEnabled : Bool
  /-- How many seconds a page of the leaderboard is kept. -/
  leaderboardTtl : Int
  /-- How many seconds the figures of an arena are kept. -/
  arenaStatsTtl : Int

namespace Settings

/-- The settings of an empty environment. -/
def default : Settings :=
  { storageAddress := "mongodb://localhost:27017"
    storageName := "survival_arena"
    stage := "development"
    debug := false
    logLevel := "INFO"
    origins := "http://localhost:3000"
    cacheEnabled := true
    leaderboardTtl := 30
    arenaStatsTtl := 15 }

def onWords : List String := ["1", "true", "t", "yes", "y", "on"]

def offWords : List String := ["0", "false", "f", "no", "n", "off"]

/-- Read a switch; small and capital letters are the same. -/
def readSwitch (text : String) : Checked Bool :=
  let word := String.ofList (text.toList.map Case.lowerLatin)
  if onWords.contains word then .valid true
  else if offWords.contains word then .valid false
  else .refuse .unreadableSwitch

def readInteger (text : String) : Checked Int := Reader.integer (.text text)

/-- Read the setting with a name, if the environment has it. -/
def setting {α : Type} (environment : Environment) (name : String) (read : String → Checked α)
    (default : α) : Checked α :=
  match environment.find? name with
  | some text => (read text).under (.key name)
  | none => .valid default

def read (environment : Environment) : Checked Settings :=
  let text (name default : String) : Checked String := setting environment name .valid default
  Settings.mk <$> text "mongodb_uri" default.storageAddress
    <*> text "mongodb_db_name" default.storageName
    <*> text "app_env" default.stage
    <*> setting environment "debug" readSwitch default.debug
    <*> text "log_level" default.logLevel
    <*> text "cors_origins" default.origins
    <*> setting environment "cache_enabled" readSwitch default.cacheEnabled
    <*> setting environment "leaderboard_cache_ttl_seconds" readInteger default.leaderboardTtl
    <*> setting environment "arena_stats_cache_ttl_seconds" readInteger default.arenaStatsTtl

def toValue (settings : Settings) : Value :=
  .record [
    ("mongodb_uri", .text settings.storageAddress),
    ("mongodb_db_name", .text settings.storageName),
    ("app_env", .text settings.stage),
    ("debug", .bool settings.debug),
    ("log_level", .text settings.logLevel),
    ("cors_origins", .text settings.origins),
    ("cache_enabled", .bool settings.cacheEnabled),
    ("leaderboard_cache_ttl_seconds", .int settings.leaderboardTtl),
    ("arena_stats_cache_ttl_seconds", .int settings.arenaStatsTtl)]

end Settings

end ArenaStandings
