import ArenaStandings.Number
import ArenaStandings.Table
import ArenaStandings.Text.Quoted

/-!
# Stored values

Documents carry values without a fixed schema. A `Value` is nothing, a truth value, a number of
either kind, a text, an object identifier, a list or a record of values; a `Record` lists its fields
in the order in which they were written. `Value.text` is the text that messages and identifiers are
made from.
-/

namespace ArenaStandings

/-- A value without a schema. -/
inductive Value
  | null
  | bool (truth : Bool)
  | int (n : Int)
  | float (x : Float)
  | text (content : String)
  /-- An object identifier, by its hexadecimal text. -/
  | objectId (hex : String)
  | list (items : List Value)
  | record (fields : List (String × Value))
  deriving Inhabited

/-- The fields of a record, in the order in which they were written. -/
abbrev Record := List (String × Value)

namespace Record

/-- The value of a field, if the record has it. -/
def get? (record : Record) (name : String) : Option Value := Table.lookupRows name record

/-- The value of a field; a missing field is nothing. -/
def get (record : Record) (name : String) : Value := (record.get? name).getD .null

/-- Write a field: in place if the record has it, at the end if not. -/
def set (record : Record) (name : String) (value : Value) : Record :=
  Table.insertRows name value record

end Record

namespace Value

/-- The object identifier with a hexadecimal text; its digits are small. -/
def ofHex (hex : String) : Value := .objectId (.ofList (hex.toList.map Char.toLower))

def isNull : Value → Bool
  | null => true
  | _ => false

/-- The text that the value is, if it is one. -/
def text? : Value → Option String
  | text content => some content
  | _ => none

/-- The record that the value is, if it is one. -/
def record? : Value → Option Record
  | record fields => some fields
  | _ => none

/-- The elements of a list; anything else has none. -/
def items : Value → List Value
  | list items => items
  | _ => []

/-- Does the value count as true? Nothing, zero and what is empty do not. -/
def isTruthy : Value → Bool
  | null => false
  | bool truth => truth
  | int n => n != 0
  | float x => !(x == 0)
  | text content => content != ""
  | objectId _ => true
  | list items => !items.isEmpty
  | record fields => !fields.isEmpty

theorem isNull_iff {value : Value} : value.isNull = true ↔ value = .null := by
  cases value <;> simp [isNull]

theorem text?_eq_some_iff {value : Value} {content : String} :
    value.text? = some content ↔ value = .text content := by
  cases value <;> simp [text?]

theorem record?_eq_some_iff {value : Value} {fields : Record} :
    value.record? = some fields ↔ value = .record fields := by
  cases value <;> simp [record?]

theorem mem_items {value item : Value} :
    item ∈ value.items ↔ ∃ items, value = .list items ∧ item ∈ items := by
  cases value <;> simp [items]

/-! ## The text of a value -/

mutual

/-- The text of a value inside a list or a record. -/
def innerText : Value → String
  | null => "None"
  | bool truth => if truth then "True" else "False"
  | int n => toString n
  | float x => Double.text x
  | text content => Quoted.quote content
  | objectId hex => "ObjectId(" ++ Quoted.quote hex ++ ")"
  | list items => "[" ++ ", ".intercalate (itemTexts items) ++ "]"
  | record fields => "\x7b" ++ ", ".intercalate (fieldTexts fields) ++ "\x7d"

def itemTexts : List Value → List String
  | [] => []
  | item :: rest => innerText item :: itemTexts rest

def fieldTexts : List (String × Value) → List String
  | [] => []
  | (name, value) :: rest => (Quoted.quote name ++ ": " ++ innerText value) :: fieldTexts rest

end

/-- The text of a value: a text and an object identifier stand for themselves. -/
def toText : Value → String
  | text content => content
  | objectId hex => hex
  | value => innerText value

theorem toText_of_text? {value : Value} {content : String} (is : value.text? = some content) :
    value.toText = content := by
  rw [text?_eq_some_iff.1 is]
  rfl

/-! ## Legible values

Integers of more than 4300 digits are refused wherever a text would have to be made of them or read
into them. -/

/-- The most digits an integer may have to be written or read. -/
def digitLimit : Nat := 4300

/-- Has the integer few enough digits to be written? -/
def intLegible (n : Int) : Bool := n.natAbs < Nat.pow 10 digitLimit

theorem intLegible_iff {n : Int} : intLegible n = true ↔ n.natAbs < Nat.pow 10 digitLimit := by
  rw [intLegible, decide_eq_true_iff]

mutual

/-- Can a text be made of the value? -/
def isLegible : Value → Bool
  | int n => intLegible n
  | list items => areLegible items
  | record fields => fieldsLegible fields
  | _ => true

def areLegible : List Value → Bool
  | [] => true
  | item :: rest => isLegible item && areLegible rest

def fieldsLegible : List (String × Value) → Bool
  | [] => true
  | (_, value) :: rest => isLegible value && fieldsLegible rest

end

theorem areLegible_iff {values : List Value} :
    areLegible values = true ↔ ∀ value ∈ values, value.isLegible = true := by
  induction values with
  | nil => simp [areLegible]
  | cons value values ih => simp [areLegible, ih]

/-- Each field of a legible record is legible. -/
theorem isLegible_get {document : Record} (legible : fieldsLegible document = true)
    (name : String) : (document.get name).isLegible = true := by
  induction document with
  | nil => rfl
  | cons field fields ih =>
    obtain ⟨other, value⟩ := field
    rw [fieldsLegible, Bool.and_eq_true] at legible
    unfold Record.get Record.get? Table.lookupRows
    split
    · exact legible.1
    · exact ih legible.2

/-- The values of a field are legible in legible records. -/
theorem areLegible_map_get {documents : List Record}
    (legible : ∀ document ∈ documents, fieldsLegible document = true) (name : String) :
    areLegible (documents.map (·.get name)) = true := by
  refine areLegible_iff.2 fun value member => ?_
  obtain ⟨document, found, rfl⟩ := List.mem_map.1 member
  exact isLegible_get (legible document found) name

end Value

end ArenaStandings
