import ArenaStandings.Decimal.Numeral
import ArenaStandings.Json.Token
import ArenaStandings.Value

/-!
# Reading a JSON text

Tokens are read one by one with a stack of the containers that are open. A number with a point or an
exponent is a double, any other an integer; the words NaN, Infinity and -Infinity are doubles. Of
two members with one key the later gives the value and the earlier the place. `Json.read?` takes a
limit on the digits of an integer. It sets none on how deep containers stand in one another: a text
on which a reader with bounded recursion gives up, because it is nested too deeply, is read here.
-/

namespace ArenaStandings

namespace Json

/-- A number by the grammar of the format: no plus sign, no leading zero, digits after the point. -/
def number? (limit : Option Nat) (spelling : List Char) : Option Value :=
  (Numeral.split? spelling).bind fun numeral =>
    let whole := numeral.whole
    let wellFormed :=
      numeral.sign != some '+' && !whole.isEmpty &&
        (whole.length == 1 || whole.head? != some '0') && numeral.fraction != some []
    if !wellFormed then none
    else if !numeral.isInteger then some (.float numeral.toFloat)
    else if limit.any (· < whole.length) then none
    else some (.int numeral.toInt)

/-- The value of an atom. -/
def atom? (limit : Option Nat) (spelling : List Char) : Option Value :=
  if spelling = "null".toList then some .null
  else if spelling = "true".toList then some (.bool true)
  else if spelling = "false".toList then some (.bool false)
  else if spelling = "NaN".toList then some (.float (0.0 / 0.0))
  else if spelling = "Infinity".toList then some (.float (1.0 / 0.0))
  else if spelling = "-Infinity".toList then some (.float (-1.0 / 0.0))
  else number? limit spelling

/-- A container with a place for the value that is being read. -/
inductive Frame
  /-- A list, with the earlier elements backwards. -/
  | item (items : List Value)
  /-- A record, with the earlier members and the key. -/
  | member (fields : Record) (key : String)

/-- A container after a value in it. -/
inductive Open
  /-- A list, with its elements backwards. -/
  | list (items : List Value)
  /-- A record with its members. -/
  | record (fields : Record)

/-- What the reader waits for. -/
inductive State
  /-- A value. -/
  | value (frames : List Frame)
  /-- The first element of a list, or its end. -/
  | listStart (frames : List Frame)
  /-- The first key of a record, or its end. -/
  | recordStart (frames : List Frame)
  /-- A further key of a record. -/
  | key (fields : Record) (frames : List Frame)
  /-- The colon after a key. -/
  | colon (fields : Record) (key : String) (frames : List Frame)
  /-- A comma, or the end of the container. -/
  | after (container : Open) (frames : List Frame)
  /-- Nothing more. -/
  | done (value : Value)

/-- Put a value into the innermost container. -/
def complete (value : Value) : List Frame → State
  | [] => .done value
  | .item items :: frames => .after (.list (value :: items)) frames
  | .member fields key :: frames => .after (.record (fields.set key value)) frames

def begin? (limit : Option Nat) (frames : List Frame) : Token → Option State
  | .openList => some (.listStart frames)
  | .openRecord => some (.recordStart frames)
  | .text content => some (complete (.text (.ofList content)) frames)
  | .atom spelling => (atom? limit spelling).map (complete · frames)
  | _ => none

def step? (limit : Option Nat) : State → Token → Option State
  | .value frames, token => begin? limit frames token
  | .listStart frames, .closeList => some (complete (.list []) frames)
  | .listStart frames, token => begin? limit (.item [] :: frames) token
  | .recordStart frames, .closeRecord => some (complete (.record []) frames)
  | .recordStart frames, .text key => some (.colon [] (.ofList key) frames)
  | .key fields frames, .text key => some (.colon fields (.ofList key) frames)
  | .colon fields key frames, .colon => some (.value (.member fields key :: frames))
  | .after (.list items) frames, .comma => some (.value (.item items :: frames))
  | .after (.list items) frames, .closeList => some (complete (.list items.reverse) frames)
  | .after (.record fields) frames, .comma => some (.key fields frames)
  | .after (.record fields) frames, .closeRecord => some (complete (.record fields) frames)
  | _, _ => none

/-- The value that a text spells. Integers of more digits than the limit are malformed. -/
def read? (limit : Option Nat) (text : List Char) : Option Value := do
  let tokens ← tokens? text
  match ← tokens.foldlM (step? limit) (.value []) with
  | .done value => some value
  | _ => none

end Json

end ArenaStandings
