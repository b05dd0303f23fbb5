import ArenaStandings.Text.Base64
import Mathlib.Data.List.Basic

/-!
# Base64 is read back

Base64 has dialects: the last two digits of the alphabet have two spellings, and the last group of
digits is completed with padding or not. The reader takes the digits of a text one by one, each in
its place in a group of four, and the octets that a group was written from are put together again
from six-bit values, in whatever dialect that was (`Base64.decode?_write`). So what the library
writes is read back whole (`Base64.decode?_encode`), and no two rows of octets are written alike
(`Base64.encode_injective`).
-/

namespace ArenaStandings

namespace Base64

/-! ## Dialects -/

/-- A way to write Base64: in the standard alphabet or in the one for addresses, and with the last
group completed by padding or not. -/
structure Dialect where
  standard : Bool
  padded : Bool

namespace Dialect

/-- The digits in the order of their values. -/
def alphabet (dialect : Dialect) : List Char :=
  if dialect.standard then
    "ABCDEFGHIJKLMNOPQRSTUVWXYZabcdefghijklmnopqrstuvwxyz0123456789+/".toList
  else Base64.alphabet

/-- The digit with a value below sixty-four. -/
def digit (dialect : Dialect) (value : Nat) : Char := dialect.alphabet.getD value 'A'

/-- What stands in the place of the digits that the last group lacks. -/
def padding (dialect : Dialect) (lacking : Nat) : List Char :=
  if dialect.padded then List.replicate lacking '=' else []

def write (dialect : Dialect) : List UInt8 → List Char
  | [] => []
  | [a] =>
    dialect.digit (a.toNat / 4) :: dialect.digit (a.toNat % 4 * 16) :: dialect.padding 2
  | [a, b] =>
    dialect.digit (a.toNat / 4) :: dialect.digit (a.toNat % 4 * 16 + b.toNat / 16) ::
      dialect.digit (b.toNat % 16 * 4) :: dialect.padding 1
  | a :: b :: c :: rest =>
    dialect.digit (a.toNat / 4) :: dialect.digit (a.toNat % 4 * 16 + b.toNat / 16) ::
      dialect.digit (b.toNat % 16 * 4 + c.toNat / 64) :: dialect.digit (c.toNat % 64) ::
        dialect.write rest

/-- The dialect of the library: the alphabet for addresses, without padding. -/
def plain : Dialect := ⟨false, false⟩

theorem write_plain (octets : List UInt8) : plain.write octets = encode octets := by
  induction octets using encode.induct with
  | case1 | case2 | case3 => rfl
  | case4 a b c rest ih =>
    rw [write, ih]
    rfl

section Digits

variable (dialect : Dialect)

theorem value?_digit {value : Nat} (small : value < 64) :
    value? (dialect.digit value) = some value := by
  unfold digit alphabet
  revert value
  split <;> decide +kernel

theorem length_alphabet : dialect.alphabet.length = 64 := by
  unfold alphabet
  split <;> decide +kernel

theorem digit_mem_alphabet {value : Nat} (small : value < 64) :
    dialect.digit value ∈ dialect.alphabet := by
  have inside : value < dialect.alphabet.length := by rwa [length_alphabet]
  rw [digit, List.getD_eq_getElem?_getD, List.getElem?_eq_getElem inside]
  exact List.getElem_mem inside

theorem toNat_lt_of_mem_alphabet {character : Char} (member : character ∈ dialect.alphabet) :
    character.toNat < 128 := by
  have ascii : dialect.alphabet.all (fun character => character.toNat < 128) = true := by
    unfold alphabet
    split <;> decide
  exact of_decide_eq_true (List.all_eq_true.1 ascii character member)

end Digits

end Dialect

/-! ## A digit in each place -/

section Places

variable {character : Char} {value : Nat} (known : value? character = some value) (bits : Nat)
  (padded : Bool) (rest : List Char)

include known

theorem ne_padding : character ≠ '=' := by
  rintro rfl
  cases known

theorem decodeFrom?_first :
    decodeFrom? .first (character :: rest) = decodeFrom? (.second value) rest := by
  have proper := ne_padding known
  simp only [decodeFrom?, known]

theorem decodeFrom?_second :
    decodeFrom? (.second bits) (character :: rest) =
      (decodeFrom? (.third (value % 16) false) rest).map
        (.ofNat (bits * 4 + value / 16) :: ·) := by
  have proper := ne_padding known
  simp only [decodeFrom?, known]

theorem decodeFrom?_third :
    decodeFrom? (.third bits padded) (character :: rest) =
      (decodeFrom? (.fourth (value % 4)) rest).map (.ofNat (bits * 16 + value / 4) :: ·) := by
  have proper := ne_padding known
  simp only [decodeFrom?, known]

theorem decodeFrom?_fourth :
    decodeFrom? (.fourth bits) (character :: rest) =
      (decodeFrom? .first rest).map (.ofNat (bits * 64 + value) :: ·) := by
  have proper := ne_padding known
  simp only [decodeFrom?, known]

end Places

/-! ## Whole texts -/

theorem pad_cons_cons_cons_cons (a b c d : Char) (text : List Char) :
    pad (a :: b :: c :: d :: text) = a :: b :: c :: d :: pad text := by
  have length : (a :: b :: c :: d :: text).length % 4 = text.length % 4 := by
    simp only [List.length_cons]
    omega
  rw [pad, pad, length]
  rfl

theorem ofNat_of_eq (octet : UInt8) {n : Nat} (same : n = octet.toNat) : UInt8.ofNat n = octet := by
  rw [same, UInt8.ofNat_toNat]

section Dialects

open Dialect

variable (dialect : Dialect) (octets : List UInt8)

/-- Two digits lack two more, whether these are padded already or not. -/
theorem pad_padding_two (a b : Char) : pad (a :: b :: dialect.padding 2) = [a, b, '=', '='] := by
  rw [padding]
  split <;> simp [pad]

theorem pad_padding_one (a b c : Char) :
    pad (a :: b :: c :: dialect.padding 1) = [a, b, c, '='] := by
  rw [padding]
  split <;> simp [pad]

/-- Octets are read back from their digits and the padding. -/
theorem decodeFrom?_pad_write : decodeFrom? .first (pad (dialect.write octets)) = some octets := by
  induction octets using encode.induct with
  | case1 =>
    rw [write]
    rfl
  | case2 a =>
    have bound := a.toNat_lt
    rw [write, pad_padding_two, decodeFrom?_first (value?_digit _ (by omega)),
      decodeFrom?_second (value?_digit _ (by omega)), ofNat_of_eq a (by omega)]
    rfl
  | case3 a b =>
    have bound := a.toNat_lt
    have bound' := b.toNat_lt
    rw [write, pad_padding_one, decodeFrom?_first (value?_digit _ (by omega)),
      decodeFrom?_second (value?_digit _ (by omega)), decodeFrom?_third (value?_digit _ (by omega)),
      ofNat_of_eq a (by omega), ofNat_of_eq b (by omega)]
    rfl
  | case4 a b c rest ih =>
    have bound := a.toNat_lt
    have bound' := b.toNat_lt
    have bound'' := c.toNat_lt
    rw [write, pad_cons_cons_cons_cons, decodeFrom?_first (value?_digit _ (by omega)),
      decodeFrom?_second (value?_digit _ (by omega)), decodeFrom?_third (value?_digit _ (by omega)),
      decodeFrom?_fourth (value?_digit _ (by omega)), ih, ofNat_of_eq a (by omega),
      ofNat_of_eq b (by omega), ofNat_of_eq c (by omega)]
    rfl

/-- Everything that is written is a digit or padding. -/
theorem mem_alphabet_of_mem_write :
    ∀ character ∈ dialect.write octets,
      character ∈ dialect.alphabet ∨ dialect.padded = true ∧ character = '=' := by
  have digit {value : Nat} (small : value < 64) :
      dialect.digit value ∈ dialect.alphabet ∨
        dialect.padded = true ∧ dialect.digit value = '=' :=
    .inl (digit_mem_alphabet dialect small)
  have completed (lacking : Nat) : ∀ character ∈ dialect.padding lacking,
      character ∈ dialect.alphabet ∨ dialect.padded = true ∧ character = '=' := by
    intro character member
    rw [padding] at member
    split at member
    · rename_i padded
      exact .inr ⟨padded, List.eq_of_mem_replicate member⟩
    · cases member
  induction octets using encode.induct with
  | case1 => exact List.forall_mem_nil _
  | case2 a =>
    have bound := a.toNat_lt
    simp only [write, List.forall_mem_cons]
    exact ⟨digit (by omega), digit (by omega), completed 2⟩
  | case3 a b =>
    have bound := a.toNat_lt
    have bound' := b.toNat_lt
    simp only [write, List.forall_mem_cons]
    exact ⟨digit (by omega), digit (by omega), digit (by omega), completed 1⟩
  | case4 a b c rest ih =>
    have bound := a.toNat_lt
    have bound' := b.toNat_lt
    have bound'' := c.toNat_lt
    simp only [write, List.forall_mem_cons]
    exact ⟨digit (by omega), digit (by omega), digit (by omega), digit (by omega), ih⟩

/-- What is written is ASCII. -/
theorem all_pad_write :
    ((pad (dialect.write octets)).all fun character => character.toNat < 128) = true := by
  refine List.all_eq_true.2 fun character member => decide_eq_true ?_
  rcases List.mem_append.1 member with written | padding
  · rcases mem_alphabet_of_mem_write dialect octets character written with digit | ⟨-, rfl⟩
    · exact toNat_lt_of_mem_alphabet dialect digit
    · decide
  · rw [List.eq_of_mem_replicate padding]
    decide

/-- **Octets are read back from any dialect.** -/
theorem decode?_write : decode? (pad (dialect.write octets)) = some octets := by
  rw [decode?, if_pos (all_pad_write dialect octets), decodeFrom?_pad_write]

end Dialects

/-- **Octets are read back.** -/
theorem decode?_encode (octets : List UInt8) : decode? (pad (encode octets)) = some octets := by
  rw [← Dialect.write_plain, decode?_write]

/-- Everything that the library writes is a digit. -/
theorem mem_alphabet_of_mem_encode (octets : List UInt8) :
    ∀ character ∈ encode octets, character ∈ alphabet := by
  intro character member
  rw [← Dialect.write_plain] at member
  rcases mem_alphabet_of_mem_write .plain octets character member with digit | ⟨padded, -⟩
  · exact digit
  · cases padded

theorem encode_injective {first second : List UInt8} (same : encode first = encode second) :
    first = second := by
  have read := decode?_encode first
  rw [same, decode?_encode second] at read
  exact (Option.some.inj read).symm

/-- A digit is a letter, a decimal digit, a hyphen or an underscore. -/
theorem mem_alphabet_cases {character : Char} (digit : character ∈ alphabet) :
    character.isAlphanum = true ∨ character = '-' ∨ character = '_' := by
  have each : (alphabet.all fun character =>
      character.isAlphanum || character == '-' || character == '_') = true := by decide +kernel
  simpa [or_assoc] using List.all_eq_true.1 each character digit

end Base64

end ArenaStandings
