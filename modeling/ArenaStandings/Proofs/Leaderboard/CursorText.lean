import ArenaStandings.Proofs.Leaderboard.Cursor
import ArenaStandings.Proofs.Web.Query

/-!
# The text of a cursor

Cursors are kept by clients and come back in queries. Their characters are digits of Base64, which
mean themselves there (`Cursor.isUnreserved_of_mem_encode`), and no two offsets share a cursor
(`Cursor.encode_injective`), for each of the steps by which one is written can be undone. With the
way back to the offset this makes cursors as good as offsets (`Cursor.encode_faithful`).

Others may write cursors in another dialect of Base64, or hand them on through something that
completes the padding or knows the standard alphabet alone. What a cursor stands for is a matter of
the octets in it, and these may be any: the dialect makes no difference (`Cursor.decode_dialects`).
-/

namespace ArenaStandings

namespace Cursor

theorem payload_injective {first second : List Char} (same : payload first = payload second) :
    first = second :=
  List.append_cancel_left (List.append_cancel_right same)

/-- **No two offsets share a cursor.** -/
theorem encode_injective {first second : Int} (same : encode first = encode second) :
    first = second := by
  have digits := String.ofList_injective same
  have octets := Base64.encode_injective digits
  have texts := Utf8.encode_injective_of_ascii (payload_lt toString_lt)
    (payload_lt toString_lt) octets
  exact CacheKey.toString_injective (payload_injective texts)

theorem mem_alphabet_of_mem_encode (offset : Int) :
    ∀ character ∈ (encode offset).toList, character ∈ Base64.alphabet := by
  rw [encode, ofText, String.toList_ofList]
  exact Base64.mem_alphabet_of_mem_encode _

/-- The characters of a cursor mean themselves in a query. -/
theorem isUnreserved_of_mem_encode (offset : Int) :
    ∀ character ∈ (encode offset).toList, Percent.isUnreserved character = true := by
  intro character member
  unfold Percent.isUnreserved
  rcases Base64.mem_alphabet_cases (mem_alphabet_of_mem_encode offset character member) with
    alphanumeric | rfl | rfl
  · rw [alphanumeric]
    rfl
  · rfl
  · rfl

/-- **Cursors stand for offsets.** The cursor for an offset that is small enough to be a double can
be written, is made of letters, digits, hyphens and underscores, is read from a query as it was
written, gives the offset back, and is the cursor of no other integer. -/
theorem encode_faithful {offset : Nat} (fits : offset < Double.overflowBound) :
    write (.int offset) = .ok (encode offset) ∧
      (∀ character ∈ (encode offset).toList,
        character.isAlphanum = true ∨ character = '-' ∨ character = '_') ∧
      (∀ path, (Target.mk path ("cursor=".toList ++ (encode offset).toList)).parameter? "cursor" =
        some (encode offset)) ∧
      decode (some (encode offset)) = .ok offset ∧
      ∀ other : Int, encode other = encode offset → other = offset := by
  refine ⟨?_, fun character member => ?_, fun path => ?_, decode_encode fits,
    fun other same => encode_injective same⟩
  · rw [write_int, if_pos (intLegible_of_lt fits)]
  · exact Base64.mem_alphabet_cases (mem_alphabet_of_mem_encode offset character member)
  · have named : "cursor".toList.all Percent.isUnreserved = true := by decide
    have spelled : "cursor=".toList = "cursor".toList ++ ['='] := by decide
    have read := Target.parameter?_of_unreserved (List.all_eq_true.1 named)
      (isUnreserved_of_mem_encode offset) path
    rw [String.ofList_toList, String.ofList_toList] at read
    rw [spelled, List.append_assoc, List.singleton_append]
    exact read

/-- The largest offset of all comes back. -/
theorem encode_faithful_largest :
    Double.overflowBound - 1 < Double.overflowBound ∧
      decode (some (encode (Double.overflowBound - 1 : Nat))) = .ok (Double.overflowBound - 1) :=
  have fits : Double.overflowBound - 1 < Double.overflowBound := by decide +kernel
  ⟨fits, (encode_faithful fits).2.2.2.1⟩

/-! ## Dialects -/

/-- The value that octets spell, if they spell one. -/
def spelled? (octets : List UInt8) : Option Value :=
  (Utf8.decode? octets).bind (Json.read? (some Value.digitLimit))

/-- The offset that octets stand for: that of the record that they spell, and the start for anything
else. -/
def ofOctets (octets : List UInt8) : Except Failure Nat :=
  match spelled? octets with
  | some (.record fields) => offsetOf (Record.get fields "offset")
  | _ => .ok 0

section Dialects

variable (dialect : Base64.Dialect) (octets : List UInt8)

/-- In whatever dialect octets are written, the cursor spells what they spell. -/
theorem payload?_write : payload? (.ofList (dialect.write octets)) = spelled? octets := by
  rw [payload?, String.toList_ofList, Base64.decode?_write]
  rfl

theorem decode_write : decode (some (.ofList (dialect.write octets))) = ofOctets octets := by
  rw [decode, payload?_write]
  rfl

end Dialects

/-- **The dialect of a cursor makes no difference.** Whatever octets are written, be they a record
or not, the cursors in any two dialects stand for one offset, or fail with one failure: what the
octets stand for. -/
theorem decode_dialects (octets : List UInt8) (first second : Base64.Dialect) :
    decode (some (.ofList (first.write octets))) = decode (some (.ofList (second.write octets))) ∧
      decode (some (.ofList (first.write octets))) = ofOctets octets := by
  have same := decode_write second octets
  rw [decode_write first octets, same]
  exact ⟨rfl, rfl⟩

/-- A cursor in the standard alphabet, with padding. -/
example : decode (some "eyJvZmZzZXQiOiA3LCAiYT8/IjogMH0=") = .ok 7 := by decide +kernel

end Cursor

end ArenaStandings
