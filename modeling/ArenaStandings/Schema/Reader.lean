import ArenaStandings.Names
import ArenaStandings.Schema.Issue
import ArenaStandings.Schema.NumberText

/-!
# Readers

A reader checks a stored value and turns it into what is asked for. The readers are lenient: a truth
value and a whole double are integers, every number and its text are doubles. `Schema.field` and
`Schema.optional` read the fields of a record under the first of several names that it has.
-/

namespace ArenaStandings

/-- A check of a stored value. -/
abbrev Reader (α : Type) := Value → Checked α

namespace Reader

variable {α : Type}

def any : Reader Value := .valid

def text : Reader String
  | .text content => .valid content
  | _ => .refuse .notText

/-- A double that is a whole number of at most sixty-four bits. -/
def wholeFloat (x : Float) : Checked Int :=
  match Double.shape x with
  | .finite negative mantissa exponent =>
    if !Double.isWhole mantissa exponent then .refuse .notWhole
    else
      let magnitude := Double.wholePart mantissa exponent
      if Nat.pow 2 63 ≤ magnitude then .refuse .oversizedInteger
      else .valid (if negative then -(magnitude : Int) else magnitude)
  | _ => .refuse .notFinite

/-- An integer, also as a truth value, a whole double or a text. -/
def integer : Reader Int
  | .int n => .valid n
  | .bool truth => .valid (if truth then 1 else 0)
  | .float x => wholeFloat x
  | .text content =>
    match NumberText.readInteger content.toList with
    | .value n => .valid n
    | .malformed => .refuse .unreadableInteger
    | .oversized => .refuse .oversizedInteger
  | _ => .refuse .notInteger

/-- A double, also as an integer within their range, a truth value or a text. -/
def double : Reader Float
  | .float x => .valid x
  | .int n =>
    match Double.ofInt? n with
    | some x => .valid x
    | none => .refuse .notNumber
  | .bool truth => .valid (if truth then 1 else 0)
  | .text content =>
    match NumberText.readFloat? content.toList with
    | some x => .valid x
    | none => .refuse .unreadableNumber
  | _ => .refuse .notNumber

/-- Accept a moment of the calendar, with its text. -/
def inCalendar (text : String) (moment : Calendar.Moment) : Checked String :=
  match moment.inCalendar with
  | .ok _ => .valid text
  | .error flaw => .refuse (.unreadableInstant flaw)

/-- Accept a number that counts the seconds up to a moment, with its text. -/
def counted (text : String) : Except Calendar.Flaw Calendar.Moment → Checked String
  | .ok moment => inCalendar text moment
  | .error flaw => .refuse (.unreadableInstant flaw)

/-- The text of a moment, or a number of seconds within the doubles. -/
def instant : Reader String
  | .text content =>
    match Calendar.Moment.ofText content.toList with
    | .ok moment => inCalendar content moment
    | .error flaw => .refuse (.unreadableDate flaw)
  | .int n =>
    if Double.fits n then counted (toString n) (Calendar.Moment.ofCount n)
    else .refuse .notInstant
  | .float x => counted (Double.text x) (Calendar.Moment.ofFloat x)
  | _ => .refuse .notInstant

def record : Reader Record
  | .record fields => .valid fields
  | _ => .refuse .notRecord

/-- A part with a name of its own, read from its record. -/
def part (name : String) (read : Record → Checked α) : Reader α
  | .record fields => read fields
  | _ => .refuse (.notPart name)

/-- Nothing, or what another reader accepts. -/
def orNull (read : Reader α) : Reader (Option α)
  | .null => .valid none
  | value => (read value).map some

/-- Check the elements of a list from a position on. -/
def elements (read : Reader α) : Nat → List Value → Checked (List α)
  | _, [] => .valid []
  | position, item :: rest =>
    List.cons <$> (read item).under (.index position) <*> elements read (position + 1) rest

def list (read : Reader α) : Reader (List α)
  | .list items => elements read 0 items
  | _ => .refuse .notList

def names : Reader Names
  | .list items => (elements text 0 items).map Names.ofList
  | _ => .refuse .notSet

end Reader

namespace Schema

variable {α : Type}

/-- The first of the names that the record has, with the value there. -/
def locate (record : Record) (names : List String) : Option (String × Value) :=
  names.findSome? fun name => (record.get? name).map (name, ·)

/-- A field that must be there; a missing one is reported under the first name. -/
def field (record : Record) (names : List String) (read : Reader α) : Checked α :=
  match locate record names with
  | some (name, value) => (read value).under (.key name)
  | none => .invalid [⟨.missing, [.key (names.headD "")]⟩]

/-- A field that has a default. -/
def optional (record : Record) (names : List String) (read : Reader α) (default : α) :
    Checked α :=
  match locate record names with
  | some (name, value) => (read value).under (.key name)
  | none => .valid default

end Schema

end ArenaStandings
