import Mathlib

/-!
# Hexadecimal text of bytes

The lower-case hexadecimal text of a byte sequence, two digits per byte with the high digit
first, as Go's `encoding/hex` writes it. Reading the text two digits at a time gives the bytes
back (`decode_encode`), so distinct byte sequences have distinct texts (`encode_injective`).
The digits are decimal digits and the letters `a` to `f`, so no separator such as `-` occurs in
a text (`filter_encode`): the texts of groups joined by dashes determine the groups.
-/

namespace Hex

/-- The digit of a value below 16. -/
def digit (n : Nat) : Char := Char.ofNat (if n < 10 then 48 + n else 87 + n)

/-- The value of a digit. -/
def digitValue (c : Char) : Nat := if c.toNat < 58 then c.toNat - 48 else c.toNat - 87

/-- The two digits of a byte, the high one first. -/
def byteDigits (b : UInt8) : List Char := [digit (b.toNat / 16), digit (b.toNat % 16)]

/-- The text of a byte sequence. -/
def encode (bytes : List UInt8) : List Char := bytes.flatMap byteDigits

/-- Reading a text two digits at a time. -/
def decode : List Char → List UInt8
  | high :: low :: rest => UInt8.ofNat (digitValue high * 16 + digitValue low) :: decode rest
  | _ => []

theorem digitValue_digit : ∀ n : Nat, n < 16 → digitValue (digit n) = n
  | 0, _ | 1, _ | 2, _ | 3, _ | 4, _ | 5, _ | 6, _ | 7, _ | 8, _ | 9, _ | 10, _ | 11, _ | 12, _
  | 13, _ | 14, _ | 15, _ => by decide
  | _ + 16, small => absurd small (by omega)

theorem digit_ne_dash : ∀ n : Nat, n < 16 → digit n ≠ '-'
  | 0, _ | 1, _ | 2, _ | 3, _ | 4, _ | 5, _ | 6, _ | 7, _ | 8, _ | 9, _ | 10, _ | 11, _ | 12, _
  | 13, _ | 14, _ | 15, _ => by decide
  | _ + 16, small => absurd small (by omega)

@[simp] theorem encode_nil : encode [] = [] := rfl

@[simp] theorem encode_cons (b : UInt8) (rest : List UInt8) :
    encode (b :: rest) = digit (b.toNat / 16) :: digit (b.toNat % 16) :: encode rest := rfl

@[simp] theorem encode_append (first second : List UInt8) :
    encode (first ++ second) = encode first ++ encode second :=
  List.flatMap_append

/-- Reading the digits of a byte gives the byte. -/
theorem decode_byteDigits (b : UInt8) (rest : List Char) :
    decode (digit (b.toNat / 16) :: digit (b.toNat % 16) :: rest) = b :: decode rest := by
  have bounded : b.toNat < 256 := UInt8.toNat_lt_size b
  rw [decode, digitValue_digit _ (by omega), digitValue_digit _ (by omega),
    show b.toNat / 16 * 16 + b.toNat % 16 = b.toNat by omega, UInt8.ofNat_toNat]

theorem decode_encode (bytes : List UInt8) : decode (encode bytes) = bytes := by
  induction bytes with
  | nil => rfl
  | cons b rest ih => rw [encode_cons, decode_byteDigits, ih]

theorem encode_injective : Function.Injective encode :=
  Function.LeftInverse.injective decode_encode

theorem dash_not_mem_encode (bytes : List UInt8) : '-' ∉ encode bytes := by
  induction bytes with
  | nil => simp
  | cons b rest ih =>
    have bounded : b.toNat < 256 := UInt8.toNat_lt_size b
    simp only [encode_cons, List.mem_cons, not_or]
    exact ⟨(digit_ne_dash _ (by omega)).symm, (digit_ne_dash _ (by omega)).symm, ih⟩

/-- Dropping the dashes from a text leaves it as it is. -/
theorem filter_encode (bytes : List UInt8) : (encode bytes).filter (· != '-') = encode bytes := by
  rw [List.filter_eq_self]
  intro c member
  have notDash : c ≠ '-' := fun same => dash_not_mem_encode bytes (same ▸ member)
  simpa using notDash

end Hex
