import ArenaStandings.Json.Printer
import ArenaStandings.Json.Reader
import ArenaStandings.Text.Base64
import ArenaStandings.Text.Utf8

/-!
# Cursors

A cursor is the Base64 text of a small JSON record that holds an offset into the ranking. Clients
keep cursors and send them back as they are. Reading is forgiving: what is no cursor, or holds no
offset that is a number at or above zero, stands for the start of the ranking. The one failure is an
integer beyond the doubles.
-/

namespace ArenaStandings

namespace Cursor

/-- The record that a cursor spells, with the text of the offset. -/
def payload (offset : List Char) : List Char :=
  "\x7b\"offset\":".toList ++ offset ++ "\x7d".toList

def ofText (offset : List Char) : String := .ofList (Base64.encode (Utf8.encode (payload offset)))

def encode (offset : Int) : String := ofText (toString offset).toList

/-- The cursor with a value in the place of the offset, if the value can be written. -/
def write (offset : Value) : Except Failure String := (Json.print offset).map ofText

/-- The cursor of an integer is written unless it has too many digits. -/
theorem write_int (offset : Int) :
    write (.int offset) =
      if Value.intLegible offset then .ok (encode offset) else .error .tooManyDigits := by
  simp only [write, Json.print]
  split <;> rfl

/-- The value that a cursor spells, if it spells one. -/
def payload? (cursor : String) : Option Value := do
  let octets ← Base64.decode? (Base64.pad cursor.toList)
  let text ← Utf8.decode? octets
  Json.read? (some Value.digitLimit) text

/-- The offset that a value stands for: the whole part of a number, and the start for a negative
number and for what is no number. -/
def offsetOf : Value → Except Failure Nat
  | .int n => if Double.fits n then .ok n.toNat else .error .integerTooLarge
  | .float x =>
    match Double.shape x with
    | .finite false mantissa exponent => .ok (Double.wholePart mantissa exponent)
    | _ => .ok 0
  | _ => .ok 0

/-- The offset that a cursor holds. No cursor, and what is none, stand for the start. -/
def decode : Option String → Except Failure Nat
  | none => .ok 0
  | some cursor =>
    match payload? cursor with
    | some (.record fields) => offsetOf (Record.get fields "offset")
    | _ => .ok 0

end Cursor

end ArenaStandings
