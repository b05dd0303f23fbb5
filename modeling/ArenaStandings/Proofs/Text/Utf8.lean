import ArenaStandings.Text.Utf8
import Mathlib.Data.List.Basic

/-!
# ASCII as octets

An ASCII character is one octet, and both readers of octets give ASCII texts back
(`Utf8.decode?_encode`, `Utf8.decodeLossy_encode`).
-/

namespace ArenaStandings

namespace Utf8

/-- The octet of an ASCII character completes that character. -/
theorem start_ascii {character : Char} (ascii : character.toNat < 128) :
    start character.val.toUInt8 = .complete character := by
  have octet : character.val.toUInt8.toNat = character.toNat := by
    rw [UInt32.toNat_toUInt8]
    change character.toNat % 256 = _
    omega
  unfold start
  dsimp only
  rw [octet, if_pos ascii, Char.ofNat_toNat]

/-- An ASCII character is written as one octet. -/
theorem encode_cons {character : Char} (ascii : character.toNat < 128) (text : List Char) :
    encode (character :: text) = character.val.toUInt8 :: encode text := by
  have single : String.utf8EncodeChar character = [character.val.toUInt8] :=
    String.utf8EncodeChar_eq_singleton (Char.utf8Size_eq_one_iff.2 (Nat.le_of_lt_succ ascii))
  rw [encode, List.flatMap_cons, single]
  rfl

/-- **ASCII texts are read back from their octets.** -/
theorem decode?_encode {text : List Char} (ascii : ∀ character ∈ text, character.toNat < 128) :
    decode? (encode text) = some text := by
  induction text with
  | nil => rfl
  | cons character text ih =>
    obtain ⟨first, others⟩ := List.forall_mem_cons.1 ascii
    have rest := ih others
    rw [decode?] at rest ⊢
    rw [encode_cons first, decodeFrom?]
    simp only [start_ascii first, rest, Option.map_some]

/-- ASCII texts are read back from their octets, leniently too. -/
theorem decodeLossy_encode {text : List Char}
    (ascii : ∀ character ∈ text, character.toNat < 128) : decodeLossy (encode text) = text := by
  induction text with
  | nil => rfl
  | cons character text ih =>
    obtain ⟨first, others⟩ := List.forall_mem_cons.1 ascii
    have rest := ih others
    rw [decodeLossy] at rest ⊢
    rw [encode_cons first, decodeLossyFrom]
    simp only [start_ascii first, rest]

theorem encode_injective_of_ascii {first second : List Char}
    (ascii : ∀ character ∈ first, character.toNat < 128)
    (ascii' : ∀ character ∈ second, character.toNat < 128)
    (same : encode first = encode second) :
    first = second := by
  have read := decode?_encode ascii
  rw [same, decode?_encode ascii'] at read
  exact (Option.some.inj read).symm

end Utf8

end ArenaStandings
