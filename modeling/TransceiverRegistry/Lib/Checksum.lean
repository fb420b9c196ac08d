import Mathlib.Tactic.Common

/-!
# Checksums that are folds

A checksum absorbs one byte after the other into its state. When a step can be undone, from the
state as well as from the byte, two inputs of one length that differ in one place have different
checksums. A reflected table-driven checksum of 32 bits has such steps when the top byte of a table
entry determines the index of the entry.
-/

namespace Lib

section Fold

variable {σ α : Type} {step : σ → α → σ}

/-- Equal checksums of one input come from equal states. -/
lemma foldl_injective (state : ∀ a s s', step s a = step s' a → s = s') (l : List α) {s s' : σ}
    (h : l.foldl step s = l.foldl step s') : s = s' := by
  induction l generalizing s s' with
  | nil => exact h
  | cons a rest ih => exact state a s s' (ih h)

/-- Changing one place of an input changes its checksum. -/
lemma foldl_set_ne (state : ∀ a s s', step s a = step s' a → s = s')
    (input : ∀ s a a', step s a = step s a' → a = a') {l : List α} {i : Nat} (hi : i < l.length)
    {b : α} (ne : b ≠ l[i]) (s : σ) : (l.set i b).foldl step s ≠ l.foldl step s := by
  induction l generalizing s i with
  | nil => cases hi
  | cons a rest ih =>
    cases i with
    | zero =>
      intro h
      exact ne (input s b a (foldl_injective state rest h))
    | succ i => exact ih (Nat.lt_of_succ_lt_succ hi) ne (step s a)

end Fold

/-- Absorb a byte into a reflected checksum of 32 bits by a table. -/
def crcStep (entry : UInt32 → UInt32) (crc : UInt32) (byte : UInt8) : UInt32 :=
  entry ((crc ^^^ byte.toUInt32) &&& 0xff) ^^^ (crc >>> 8)

/-- The top byte of a table entry determines its index. -/
def TopDetermines (entry : UInt32 → UInt32) : Prop :=
  ∀ i j : UInt8, entry i.toUInt32 >>> 24 = entry j.toUInt32 >>> 24 → i = j

variable {entry : UInt32 → UInt32}

/-- Only the table entry reaches the top byte of a checksum. -/
lemma crcStep_top (crc : UInt32) (byte : UInt8) :
    crcStep entry crc byte >>> 24 = entry ((crc ^^^ byte.toUInt32) &&& 0xff) >>> 24 := by
  apply UInt32.eq_of_toBitVec_eq
  apply BitVec.eq_of_getLsbD_eq
  intro i _
  simp [crcStep, BitVec.getLsbD_of_ge crc.toBitVec (8 + (24 + i)) (by omega)]

/-- The index of a table entry is a byte. -/
lemma crc_index (crc : UInt32) (byte : UInt8) :
    (crc ^^^ byte.toUInt32) &&& 0xff = (crc.toUInt8 ^^^ byte).toUInt32 := by
  apply UInt32.toNat_inj.1
  have mask := Nat.and_two_pow_sub_one_eq_mod (crc.toNat ^^^ byte.toNat) 8
  have split := @Nat.xor_mod_two_pow crc.toNat byte.toNat 8
  rw [Nat.mod_eq_of_lt byte.toNat_lt] at split
  simpa [split] using mask

/-- A checksum is its low byte and the rest. -/
lemma eq_of_low_high {crc crc' : UInt32} (low : crc.toUInt8 = crc'.toUInt8)
    (high : crc >>> 8 = crc' >>> 8) : crc = crc' := by
  have low := congrArg UInt8.toNat low
  have high := congrArg UInt32.toNat high
  simp at low high
  apply UInt32.toNat_inj.1
  omega

/-- Equal steps have the same table entry, and the same rest of the state. -/
lemma crcStep_parts (determines : TopDetermines entry) {crc crc' : UInt32} {byte byte' : UInt8}
    (h : crcStep entry crc byte = crcStep entry crc' byte') :
    crc.toUInt8 ^^^ byte = crc'.toUInt8 ^^^ byte' ∧ crc >>> 8 = crc' >>> 8 := by
  have top := congrArg (fun crc : UInt32 => crc >>> 24) h
  simp only [crcStep_top, crc_index] at top
  have index := determines _ _ top
  refine ⟨index, ?_⟩
  simp only [crcStep, crc_index, index] at h
  exact UInt32.xor_right_inj _ |>.1 h

/-- A step can be undone when the byte is known. -/
lemma crcStep_state (determines : TopDetermines entry) (byte : UInt8) (crc crc' : UInt32)
    (h : crcStep entry crc byte = crcStep entry crc' byte) : crc = crc' := by
  obtain ⟨index, high⟩ := crcStep_parts determines h
  exact eq_of_low_high (UInt8.xor_left_inj byte |>.1 index) high

/-- A step can be undone when the state is known. -/
lemma crcStep_byte (determines : TopDetermines entry) (crc : UInt32) (byte byte' : UInt8)
    (h : crcStep entry crc byte = crcStep entry crc byte') : byte = byte' :=
  UInt8.xor_right_inj _ |>.1 (crcStep_parts determines h).1

end Lib
