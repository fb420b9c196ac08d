import Mathlib.Tactic.Common

/-!
# Encodings of scalar values

Which bytes encode a Unicode scalar value in UTF-8: one byte below 0x80, or a leading byte and one to
three continuation bytes, where the leading bytes 0xe0, 0xed, 0xf0 and 0xf4 narrow the range of the
first continuation byte, so that no encoding is overlong, a surrogate, or above U+10FFFF.
-/

namespace Lib

/-- The bytes that follow a leading byte. -/
abbrev IsContinuation (b : UInt8) : Prop := 0x80 ≤ b ∧ b ≤ 0xbf

variable {b0 b1 b2 b3 : UInt8}

/-- The scalar value of a number. -/
lemma exists_scalar {v : Nat} (valid : v.isValidChar) : ∃ c : Char, c.val.toNat = v :=
  ⟨Char.ofNatAux v valid, rfl⟩

/-- A byte by its number. -/
lemma byte_eq (b : UInt8) {v : Nat} (same : v = b.toNat) : UInt8.ofNat v = b := by
  rw [same, UInt8.ofNat_toNat]

/-- The encodings of one byte. -/
lemma encodes_one : (∃ c, String.utf8EncodeChar c = [b0]) ↔ b0 < 0x80 := by
  have h0 := b0.toNat_lt
  simp only [UInt8.lt_iff_toNat_lt, UInt8.reduceToNat]
  constructor
  · rintro ⟨c, encoded⟩
    simp only [String.utf8EncodeChar] at encoded
    generalize c.val.toNat = v at *
    split at encoded
    · injection encoded with first
      rw [← first, UInt8.toNat_ofNat']
      omega
    split at encoded
    · cases encoded
    split at encoded <;> cases encoded
  · intro low
    obtain ⟨c, value⟩ : ∃ c : Char, c.val.toNat = b0.toNat := exists_scalar (.inl (by omega))
    refine ⟨c, ?_⟩
    simp only [String.utf8EncodeChar, value]
    rw [if_pos (by omega), byte_eq b0 rfl]

/-- The encodings of two bytes. -/
lemma encodes_two : (∃ c, String.utf8EncodeChar c = [b0, b1]) ↔
    (0xc2 ≤ b0 ∧ b0 ≤ 0xdf) ∧ IsContinuation b1 := by
  have h0 := b0.toNat_lt
  have h1 := b1.toNat_lt
  simp only [IsContinuation, UInt8.le_iff_toNat_le, UInt8.reduceToNat]
  constructor
  · rintro ⟨c, encoded⟩
    simp only [String.utf8EncodeChar] at encoded
    generalize c.val.toNat = v at *
    split at encoded
    · cases encoded
    split at encoded
    · injection encoded with first encoded
      injection encoded with second
      rw [← first, ← second, UInt8.toNat_ofNat', UInt8.toNat_ofNat']
      omega
    split at encoded <;> cases encoded
  · rintro ⟨lead, second⟩
    obtain ⟨c, value⟩ : ∃ c : Char, c.val.toNat =
        (b0.toNat - 0xc0) * 64 + (b1.toNat - 0x80) := exists_scalar (.inl (by omega))
    refine ⟨c, ?_⟩
    simp only [String.utf8EncodeChar, value]
    rw [if_neg (by omega), if_pos (by omega), byte_eq b0 (by omega),
      byte_eq b1 (by omega)]

/-- The encodings of three bytes. -/
lemma encodes_three : (∃ c, String.utf8EncodeChar c = [b0, b1, b2]) ↔
    (b0 = 0xe0 ∧ 0xa0 ≤ b1 ∧ b1 ≤ 0xbf ∨ (0xe1 ≤ b0 ∧ b0 ≤ 0xec) ∧ IsContinuation b1 ∨
      b0 = 0xed ∧ 0x80 ≤ b1 ∧ b1 ≤ 0x9f ∨ (0xee ≤ b0 ∧ b0 ≤ 0xef) ∧ IsContinuation b1) ∧
    IsContinuation b2 := by
  have h0 := b0.toNat_lt
  have h1 := b1.toNat_lt
  have h2 := b2.toNat_lt
  simp only [IsContinuation, UInt8.le_iff_toNat_le, ← UInt8.toNat_inj, UInt8.reduceToNat]
  constructor
  · rintro ⟨c, encoded⟩
    have valid : c.val.toNat.isValidChar := c.valid
    simp only [String.utf8EncodeChar] at encoded
    generalize c.val.toNat = v at *
    split at encoded
    · cases encoded
    split at encoded
    · cases encoded
    split at encoded
    · injection encoded with first encoded
      injection encoded with second encoded
      injection encoded with third
      rw [← first, ← second, ← third, UInt8.toNat_ofNat', UInt8.toNat_ofNat', UInt8.toNat_ofNat']
      unfold Nat.isValidChar at valid
      omega
    cases encoded
  · rintro ⟨lead, third⟩
    obtain ⟨c, value⟩ : ∃ c : Char, c.val.toNat =
        (b0.toNat - 0xe0) * 4096 + (b1.toNat - 0x80) * 64 + (b2.toNat - 0x80) :=
      exists_scalar (by unfold Nat.isValidChar; omega)
    refine ⟨c, ?_⟩
    simp only [String.utf8EncodeChar, value]
    rw [if_neg (by omega), if_neg (by omega), if_pos (by omega), byte_eq b0 (by omega),
      byte_eq b1 (by omega), byte_eq b2 (by omega)]

/-- The encodings of four bytes. -/
lemma encodes_four : (∃ c, String.utf8EncodeChar c = [b0, b1, b2, b3]) ↔
    (b0 = 0xf0 ∧ 0x90 ≤ b1 ∧ b1 ≤ 0xbf ∨ (0xf1 ≤ b0 ∧ b0 ≤ 0xf3) ∧ IsContinuation b1 ∨
      b0 = 0xf4 ∧ 0x80 ≤ b1 ∧ b1 ≤ 0x8f) ∧
    IsContinuation b2 ∧ IsContinuation b3 := by
  have h0 := b0.toNat_lt
  have h1 := b1.toNat_lt
  have h2 := b2.toNat_lt
  have h3 := b3.toNat_lt
  simp only [IsContinuation, UInt8.le_iff_toNat_le, ← UInt8.toNat_inj, UInt8.reduceToNat]
  constructor
  · rintro ⟨c, encoded⟩
    have valid : c.val.toNat.isValidChar := c.valid
    simp only [String.utf8EncodeChar] at encoded
    generalize c.val.toNat = v at *
    split at encoded
    · cases encoded
    split at encoded
    · cases encoded
    split at encoded
    · cases encoded
    injection encoded with first encoded
    injection encoded with second encoded
    injection encoded with third encoded
    injection encoded with fourth
    rw [← first, ← second, ← third, ← fourth, UInt8.toNat_ofNat', UInt8.toNat_ofNat',
      UInt8.toNat_ofNat', UInt8.toNat_ofNat']
    unfold Nat.isValidChar at valid
    omega
  · rintro ⟨lead, third, fourth⟩
    obtain ⟨c, value⟩ : ∃ c : Char, c.val.toNat = (b0.toNat - 0xf0) * 262144 +
        (b1.toNat - 0x80) * 4096 + (b2.toNat - 0x80) * 64 + (b3.toNat - 0x80) :=
      exists_scalar (by unfold Nat.isValidChar; omega)
    refine ⟨c, ?_⟩
    simp only [String.utf8EncodeChar, value]
    rw [if_neg (by omega), if_neg (by omega), if_neg (by omega), byte_eq b0 (by omega),
      byte_eq b1 (by omega), byte_eq b2 (by omega), byte_eq b3 (by omega)]

/-- An encoding has one to four bytes. -/
lemma encode_shape (c : Char) : (∃ b0, String.utf8EncodeChar c = [b0]) ∨
    (∃ b0 b1, String.utf8EncodeChar c = [b0, b1]) ∨
    (∃ b0 b1 b2, String.utf8EncodeChar c = [b0, b1, b2]) ∨
    ∃ b0 b1 b2 b3, String.utf8EncodeChar c = [b0, b1, b2, b3] := by
  simp only [String.utf8EncodeChar]
  split
  · exact .inl ⟨_, rfl⟩
  split
  · exact .inr (.inl ⟨_, _, rfl⟩)
  split
  · exact .inr (.inr (.inl ⟨_, _, _, rfl⟩))
  · exact .inr (.inr (.inr ⟨_, _, _, _, rfl⟩))

end Lib
