import ArenaStandings.Config.Origins
import ArenaStandings.Config.Settings
import ArenaStandings.Failure
import ArenaStandings.Log

/-!
# Starting up

From an environment come the settings, the severity from which log lines are kept, and the origins
that are trusted. Settings that cannot be read are reported before an unknown severity.
-/

namespace ArenaStandings

/-- What is known once the service has started. -/
structure Startup where
  settings : Settings
  severity : Severity
  origins : OriginPolicy

namespace Startup

/-- The origins that settings trust; hosted ones only in production. -/
def originsOf (settings : Settings) : OriginPolicy :=
  { listed := OriginPolicy.parseList settings.origins
    hosted := settings.stage == "production" }

def load (environment : Environment) : Except Failure Startup := do
  let settings ← (Settings.read environment).orFail
  let name := Case.upper settings.logLevel
  match Severity.ofName? name with
  | some severity => return ⟨settings, severity, originsOf settings⟩
  | none => throw (.unknownSeverity name)

end Startup

end ArenaStandings
