/-!
# Log lines

Operations report what they met as lines of a log, each with a severity. `Severity.ofName?` knows
the names under which severities are configured; two severities have a second name.
-/

namespace ArenaStandings

/-- How much a log line matters. -/
inductive Severity
  | unset
  | debug
  | info
  | warning
  | error
  | critical
  deriving DecidableEq, Repr

namespace Severity

def name : Severity → String
  | unset => "NOTSET"
  | debug => "DEBUG"
  | info => "INFO"
  | warning => "WARNING"
  | error => "ERROR"
  | critical => "CRITICAL"

/-- The number by which severities are ordered. -/
def rank : Severity → Nat
  | unset => 0
  | debug => 10
  | info => 20
  | warning => 30
  | error => 40
  | critical => 50

def ofName? : String → Option Severity
  | "NOTSET" => some unset
  | "DEBUG" => some debug
  | "INFO" => some info
  | "WARNING" | "WARN" => some warning
  | "ERROR" => some error
  | "CRITICAL" | "FATAL" => some critical
  | _ => none

end Severity

structure LogLine where
  severity : Severity
  message : String
  deriving DecidableEq, Repr

namespace LogLine

def text (line : LogLine) : String := line.severity.name ++ " " ++ line.message

def debug (message : String) : LogLine := ⟨.debug, message⟩

def info (message : String) : LogLine := ⟨.info, message⟩

def warning (message : String) : LogLine := ⟨.warning, message⟩

end LogLine

end ArenaStandings
