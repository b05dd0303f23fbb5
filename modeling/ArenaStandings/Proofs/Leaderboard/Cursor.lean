import ArenaStandings.Leaderboard.Cursor
import ArenaStandings.Proofs.Json.Atoms
import ArenaStandings.Proofs.Text.Base64
import ArenaStandings.Proofs.Text.Utf8

/-!
# Cursors are read back

A cursor that was written for an offset stands for that offset, as long as the offset is small
enough to be a double (`Cursor.decode_encode`). The record that a cursor spells is read back from
its text whatever atom stands in the place of the offset (`Json.read?_payload`), so the cursor for
any integer that can be read holds this integer (`Cursor.payload?_encode`).
-/

namespace ArenaStandings

/-! ## The record of a cursor -/

namespace Json

/-- Characters that do not end an atom are read as one atom. -/
theorem tokensFrom?_atom {spelling : List Char}
    (inner : ∀ character ∈ spelling, boundary? character = none) (read : List Char) :
    tokensFrom? (.atom read) (spelling ++ ['\x7d']) =
      some [.atom (read.reverse ++ spelling), .closeRecord] := by
  induction spelling generalizing read with
  | nil => simp [tokensFrom?, boundary?]
  | cons character spelling ih =>
    rw [List.cons_append, tokensFrom?, inner character List.mem_cons_self]
    dsimp only
    rw [ih fun other member => inner other (List.mem_cons_of_mem _ member)]
    simp

/-- A character between tokens that is a mark or opens a quoted text. -/
theorem tokensFrom?_boundary {character : Char} {tokens : List Token} {mode : Mode}
    (found : boundary? character = some (tokens, mode)) (rest : List Char) :
    tokensFrom? .between (character :: rest) = (tokensFrom? mode rest).map (tokens ++ ·) := by
  rw [tokensFrom?, found]

/-- Inside a quoted text, characters without a meaning of their own are read as they are. -/
theorem tokensFrom?_text {content : List Char}
    (plain : ∀ character ∈ content,
      character ≠ '\x22' ∧ character ≠ '\\' ∧ 0x20 ≤ character.toNat)
    (read : List Nat) (rest : List Char) :
    tokensFrom? (.text read) (content ++ '\x22' :: rest) =
      (tokensFrom? .between rest).map
        (.text (ofUnits (read.reverse ++ content.map Char.toNat)) :: ·) := by
  induction content generalizing read with
  | nil => simp [tokensFrom?]
  | cons character content ih =>
    obtain ⟨quote, backslash, visible⟩ := plain character List.mem_cons_self
    rw [List.cons_append, tokensFrom?, if_neg quote, if_neg backslash, if_neg (by omega),
      ih fun other member => plain other (List.mem_cons_of_mem _ member)]
    simp

/-- The tokens of the record that a cursor spells. -/
theorem tokens?_payload {spelling : List Char}
    (inner : ∀ character ∈ spelling, boundary? character = none) (nonempty : spelling ≠ []) :
    tokens? (Cursor.payload spelling) =
      some [.openRecord, .text "offset".toList, .colon, .atom spelling, .closeRecord] := by
  have number : tokensFrom? .between (spelling ++ ['\x7d']) =
      some [.atom spelling, .closeRecord] := by
    obtain ⟨first, rest, rfl⟩ := List.exists_cons_of_ne_nil nonempty
    rw [List.cons_append, tokensFrom?, inner first List.mem_cons_self]
    exact tokensFrom?_atom (fun other member => inner other (List.mem_cons_of_mem _ member)) _
  have plain : ∀ character ∈ "offset".toList,
      character ≠ '\x22' ∧ character ≠ '\\' ∧ 0x20 ≤ character.toNat := by
    simp
  have key : ofUnits ([].reverse ++ "offset".toList.map Char.toNat) = "offset".toList := by
    decide +kernel
  have spelled : Cursor.payload spelling =
      '\x7b' :: '\x22' :: ("offset".toList ++ '\x22' :: ':' :: (spelling ++ ['\x7d'])) := by
    unfold Cursor.payload
    simp
  have opening : boundary? '\x7b' = some ([.openRecord], .between) := rfl
  have quote : boundary? '\x22' = some ([], .text []) := rfl
  have colon : boundary? ':' = some ([.colon], .between) := rfl
  rw [tokens?, spelled, tokensFrom?_boundary opening, tokensFrom?_boundary quote,
    tokensFrom?_text plain, key, tokensFrom?_boundary colon, number]
  rfl

/-- The record that a cursor spells is read back. -/
theorem read?_payload {limit : Option Nat} {spelling : List Char} {value : Value}
    (inner : ∀ character ∈ spelling, boundary? character = none) (nonempty : spelling ≠ [])
    (read : atom? limit spelling = some value) :
    read? limit (Cursor.payload spelling) = some (.record [("offset", value)]) := by
  rw [read?, tokens?_payload inner nonempty]
  simp [step?, begin?, read, complete, Record.set, Table.insertRows]

end Json

namespace Cursor

theorem overflowBound_le : Double.overflowBound ≤ Nat.pow 10 Value.digitLimit := by
  decide +kernel

/-- What rounds to a double has few enough digits to be written. -/
theorem intLegible_of_lt {n : Nat} (fits : n < Double.overflowBound) :
    Value.intLegible n = true :=
  Value.intLegible_iff.2 (fits.trans_le overflowBound_le)

theorem payload_lt {offset : List Char} (ascii : ∀ character ∈ offset, character.toNat < 128) :
    ∀ character ∈ payload offset, character.toNat < 128 := by
  have start : ("\x7b\"offset\":".toList.all fun character => character.toNat < 128) = true := by
    decide +kernel
  have stop : ("\x7d".toList.all fun character => character.toNat < 128) = true := by
    decide +kernel
  have number : (offset.all fun character => character.toNat < 128) = true :=
    List.all_eq_true.2 fun character member => decide_eq_true (ascii character member)
  have ascii : ((payload offset).all fun character => character.toNat < 128) = true := by
    unfold payload
    rw [List.all_append, List.all_append, start, number, stop]
    rfl
  exact fun character member => of_decide_eq_true (List.all_eq_true.1 ascii character member)

/-- The text of an integer is ASCII. -/
theorem toString_lt {offset : Int} :
    ∀ character ∈ (toString offset).toList, character.toNat < 128 := by
  intro character member
  rcases CacheKey.mem_toString_cases member with rfl | digit
  · decide
  · exact toNat_lt_of_isDigit digit

/-- What a cursor for an integer spells is the record with the integer. -/
theorem payload?_encode {n : Int} (legible : Value.intLegible n = true) :
    payload? (encode n) = some (.record [("offset", .int n)]) := by
  have nonempty : (toString n).toList ≠ [] := by
    rw [CacheKey.toList_toString]
    split
    · exact Nat.toDigits_ne_nil
    · exact List.cons_ne_nil _ _
  have read := Json.atom?_toString (by decide) (Value.intLegible_iff.1 legible)
  rw [payload?, encode, ofText, String.toList_ofList, Base64.decode?_encode]
  rw [Option.bind_eq_bind, Option.bind_some, Utf8.decode?_encode (payload_lt toString_lt),
    Option.bind_eq_bind, Option.bind_some]
  exact Json.read?_payload (fun _ => Json.boundary?_of_mem_toString) nonempty read

/-- The cursor for an integer stands for what the integer stands for. -/
theorem decode_encode_eq {n : Int} (legible : Value.intLegible n = true) :
    decode (some (encode n)) = offsetOf (.int n) := by
  have field : Record.get [("offset", Value.int n)] "offset" = .int n := rfl
  rw [decode, payload?_encode legible]
  dsimp only
  rw [field]

/-- **A cursor is read back.** -/
theorem decode_encode {n : Nat} (fits : n < Double.overflowBound) :
    decode (some (encode n)) = .ok n := by
  have double : Double.fits n = true := Double.fits_iff.2 fits
  rw [decode_encode_eq (intLegible_of_lt fits), offsetOf, if_pos double, Int.toNat_natCast]

end Cursor

end ArenaStandings
