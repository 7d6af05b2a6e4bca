import Mathlib
import ZdmProxy.Lib.Splice

/-!
# The UTF-8 bytes of a character sequence

A program that keeps its strings as UTF-8 byte sequences and indexes them by byte, but takes
its indices from a tool that counts characters, reads the right bytes only while every
character before an index is one byte long. This module gives the bytes of a character
sequence (`encode`), their number (`length_encode`), and the two facts such a program needs:
for ASCII text the bytes are the characters one for one, so a splice of the bytes at character
indices is the bytes of the splice of the characters (`spliced_encode_of_all_isAscii`); and
any other character makes the bytes outnumber the characters (`length_lt_length_encode`).
-/

namespace Utf8

open Splice

/-- The UTF-8 bytes of a character sequence. -/
def encode (chars : List Char) : List UInt8 := chars.flatMap String.utf8EncodeChar

@[simp] theorem encode_nil : encode [] = [] := rfl

@[simp] theorem encode_cons (char : Char) (chars : List Char) :
    encode (char :: chars) = String.utf8EncodeChar char ++ encode chars := rfl

@[simp] theorem encode_append (first second : List Char) :
    encode (first ++ second) = encode first ++ encode second := by
  simp [encode]

/-- The byte of a one-byte character. -/
def asciiByte (char : Char) : UInt8 := char.val.toUInt8

/-- A character is one byte long exactly when it is ASCII. -/
theorem utf8Size_eq_one_iff_isAscii (char : Char) : char.utf8Size = 1 ↔ char.isAscii = true := by
  rw [Char.utf8Size_eq_one_iff, UInt32.le_iff_toNat_le]
  simp only [Char.isAscii, decide_eq_true_eq, Char.toNat]
  have top : (127 : UInt32).toNat = 127 := rfl
  omega

theorem utf8EncodeChar_of_isAscii {char : Char} (ascii : char.isAscii = true) :
    String.utf8EncodeChar char = [asciiByte char] :=
  String.utf8EncodeChar_eq_singleton ((utf8Size_eq_one_iff_isAscii char).mpr ascii)

/-- Every character takes its UTF-8 size in bytes. -/
theorem length_encode (chars : List Char) :
    (encode chars).length = (chars.map Char.utf8Size).sum := by
  induction chars with
  | nil => rfl
  | cons char chars ih => simp [ih, String.length_utf8EncodeChar]

/-- ASCII text is its characters, one byte each. -/
theorem encode_of_all_isAscii {chars : List Char} (ascii : chars.all Char.isAscii = true) :
    encode chars = chars.map asciiByte := by
  induction chars with
  | nil => rfl
  | cons char chars ih =>
    simp only [List.all_cons, Bool.and_eq_true] at ascii
    rw [encode_cons, utf8EncodeChar_of_isAscii ascii.1, ih ascii.2, List.map_cons,
      List.singleton_append]

theorem length_encode_of_all_isAscii {chars : List Char} (ascii : chars.all Char.isAscii = true) :
    (encode chars).length = chars.length := by
  rw [encode_of_all_isAscii ascii, List.length_map]

/-- The bytes never fall short of the characters. -/
theorem length_le_length_encode (chars : List Char) : chars.length ≤ (encode chars).length := by
  induction chars with
  | nil => rfl
  | cons char chars ih =>
    have atLeastOne := String.length_utf8EncodeChar char ▸ Char.utf8Size_pos char
    simp only [encode_cons, List.length_append, List.length_cons]
    omega

/-- A character beyond ASCII makes the bytes outnumber the characters. -/
theorem length_lt_length_encode {chars : List Char} (wide : chars.all Char.isAscii = false) :
    chars.length < (encode chars).length := by
  induction chars with
  | nil => cases wide
  | cons char chars ih =>
    simp only [encode_cons, List.length_append, List.length_cons]
    by_cases ascii : char.isAscii = true
    · have oneByte := utf8EncodeChar_of_isAscii ascii
      simp only [List.all_cons, ascii, Bool.true_and] at wide
      have := ih wide
      simp only [oneByte, List.length_singleton]
      omega
    · -- a character outside ASCII takes at least two bytes
      have wideChar : 1 < (String.utf8EncodeChar char).length := by
        rw [String.length_utf8EncodeChar]
        have notOne : char.utf8Size ≠ 1 := fun one => ascii ((utf8Size_eq_one_iff_isAscii char).mp one)
        have := Char.utf8Size_pos char
        omega
      have := length_le_length_encode chars
      omega

/-- For ASCII text and ASCII replacements, splicing the bytes at character indices is
splicing the characters and taking the bytes. -/
theorem spliced_encode_of_all_isAscii {chars : List Char} (ascii : chars.all Char.isAscii = true)
    {replacement : List Char} (replacementAscii : replacement.all Char.isAscii = true)
    (spans : List (Nat × Nat)) (i : Nat) :
    spliced (encode chars) i (spans.map fun span => ⟨span.1, span.2, encode replacement⟩) =
      encode (spliced chars i (spans.map fun span => ⟨span.1, span.2, replacement⟩)) := by
  -- the spliced characters come from the text or the replacement, so they are ASCII too
  have splicedAscii : (spliced chars i (spans.map fun span =>
      (⟨span.1, span.2, replacement⟩ : Edit Char))).all Char.isAscii = true := by
    rw [List.all_eq_true]
    intro char present
    rcases mem_spliced present with original | ⟨edit, member, replaced⟩
    · exact List.all_eq_true.mp ascii char original
    · obtain ⟨span, -, rfl⟩ := List.mem_map.mp member
      exact List.all_eq_true.mp replacementAscii char replaced
  rw [encode_of_all_isAscii ascii, encode_of_all_isAscii replacementAscii,
    encode_of_all_isAscii splicedAscii, spliced_map, List.map_map]
  rfl

end Utf8
