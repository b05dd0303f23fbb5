import ArenaStandings.Calendar.Moment
import ArenaStandings.Value

/-!
# What is wrong with a value

An `Issue` says where a value does not have the shape that is asked for, and why. `Checked` is the
outcome of a check: a value, or all the issues that were found. Checks on the parts of a record are
put together with `<*>`, which keeps the issues of both sides in order, so that one bad field does
not hide the next.
-/

namespace ArenaStandings

/-- A step from a value to a part of it. -/
inductive Step
  | key (name : String)
  | index (position : Nat)
  deriving DecidableEq, Repr

/-- Why a value is not accepted. -/
inductive Reason
  | missing
  | notText
  | notInteger
  | notWhole
  | notFinite
  | unreadableInteger
  | oversizedInteger
  | notNumber
  | unreadableNumber
  | unreadableSwitch
  | notInstant
  /-- A text or a number that stands for no moment. -/
  | unreadableInstant (flaw : Calendar.Flaw)
  /-- A text that stands for neither a moment nor a date. -/
  | unreadableDate (flaw : Calendar.Flaw)
  | notRecord
  | notList
  | notSet
  /-- Not a record, where a part with a name of its own is asked for. -/
  | notPart (name : String)
  | above (bound : Int)
  | below (bound : Int)
  deriving DecidableEq, Repr

namespace Reason

def code : Reason → String
  | missing => "missing"
  | notText => "string_type"
  | notInteger => "int_type"
  | notWhole => "int_from_float"
  | notFinite => "finite_number"
  | unreadableInteger => "int_parsing"
  | oversizedInteger => "int_parsing_size"
  | notNumber => "float_type"
  | unreadableNumber => "float_parsing"
  | unreadableSwitch => "bool_parsing"
  | notInstant => "datetime_type"
  | unreadableInstant _ => "datetime_parsing"
  | unreadableDate _ => "datetime_from_date_parsing"
  | notRecord => "dict_type"
  | notList => "list_type"
  | notSet => "set_type"
  | notPart _ => "model_type"
  | above _ => "less_than_equal"
  | below _ => "greater_than_equal"

def message : Reason → String
  | missing => "Field required"
  | notText => "Input should be a valid string"
  | notInteger => "Input should be a valid integer"
  | notWhole => "Input should be a valid integer, got a number with a fractional part"
  | notFinite => "Input should be a finite number"
  | unreadableInteger => "Input should be a valid integer, unable to parse string as an integer"
  | oversizedInteger => "Unable to parse input string as an integer, exceeded maximum size"
  | notNumber => "Input should be a valid number"
  | unreadableNumber => "Input should be a valid number, unable to parse string as a number"
  | unreadableSwitch => "Input should be a valid boolean, unable to interpret input"
  | notInstant => "Input should be a valid datetime"
  | unreadableInstant flaw => "Input should be a valid datetime, " ++ flaw.message
  | unreadableDate flaw => "Input should be a valid datetime or date, " ++ flaw.message
  | notRecord => "Input should be a valid dictionary"
  | notList => "Input should be a valid list"
  | notSet => "Input should be a valid set"
  | notPart name => "Input should be a valid dictionary or instance of " ++ name
  | above bound => "Input should be less than or equal to " ++ toString bound
  | below bound => "Input should be greater than or equal to " ++ toString bound

end Reason

/-- A reason and the place that it is about. -/
structure Issue where
  reason : Reason
  path : List Step
  deriving DecidableEq, Repr

/-- The outcome of a check. -/
inductive Checked (α : Type)
  | valid (value : α)
  | invalid (issues : List Issue)

namespace Checked

variable {α β : Type}

/-- A check that fails at the value itself. -/
def refuse (reason : Reason) : Checked α := invalid [⟨reason, []⟩]

def map (change : α → β) : Checked α → Checked β
  | valid value => valid (change value)
  | invalid issues => invalid issues

/-- Use two checks; the issues of both count. -/
def seq (left : Checked (α → β)) (right : Unit → Checked α) : Checked β :=
  match left, right () with
  | valid change, valid value => valid (change value)
  | valid _, invalid issues => invalid issues
  | invalid issues, valid _ => invalid issues
  | invalid first, invalid second => invalid (first ++ second)

instance : Applicative Checked where
  pure := valid
  map := map
  seq := seq

theorem map_eq_valid_iff {change : α → β} {check : Checked α} {value : β} :
    change <$> check = valid value ↔ ∃ given, check = valid given ∧ change given = value := by
  change check.map change = valid value ↔ _
  cases check <;> simp [map]

/-- Two checks are passed together when each of them is passed. -/
theorem seq_eq_valid_iff {left : Checked (α → β)} {right : Checked α} {value : β} :
    left <*> right = valid value ↔
      ∃ change given, left = valid change ∧ right = valid given ∧ change given = value := by
  change left.seq (fun _ => right) = valid value ↔ _
  cases left <;> cases right <;> simp [seq]

/-- A check of a part: the issues lie one step further down. -/
def under (step : Step) : Checked α → Checked α
  | valid value => valid value
  | invalid issues => invalid (issues.map fun issue => ⟨issue.reason, step :: issue.path⟩)

theorem under_eq_valid_iff {step : Step} {check : Checked α} {value : α} :
    check.under step = valid value ↔ check = valid value := by
  cases check <;> simp [under]

def toOption : Checked α → Option α
  | valid value => some value
  | invalid _ => none

theorem toOption_eq_some_iff {check : Checked α} {value : α} :
    check.toOption = some value ↔ check = valid value := by
  cases check <;> simp [toOption]

end Checked

end ArenaStandings
