import TransceiverRegistry.Core.Digest
import TransceiverRegistry.Lib.Remainder

/-!
# The checksum of files and frames

What `crc32c` of `digest.cpp` computes: it continues over a concatenation, it is the bitwise reflected
checksum of its polynomial, and it shows every change inside four consecutive bytes.
-/

namespace TransceiverRegistry

open Lib

/-- The word of the bits of a byte is the byte. -/
lemma bitsWord_byteBits : ∀ byte : UInt8, bitsWord (byteBits byte) = byte.toUInt32 :=
  forall_uint8 (by decide +kernel)

/-- A step by the table shifts the bits of the byte into the remainder
(source `make_crc32c_table`). -/
lemma crcStep_crc32cEntry (crc : UInt32) (byte : UInt8) :
    crcStep crc32cEntry crc byte = (byteBits byte).foldl (shiftBit 0x82f63b78) crc := by
  have eight : (byteBits byte).length = 8 := by
    rw [byteBits, List.length_map, List.length_range]
  have entry (i : UInt32) : crc32cEntry i = (reflectedShift 0x82f63b78)^[8] i := rfl
  have high : (crc ^^^ byte.toUInt32) >>> 8 = crc >>> 8 := by
    have small : byte.toUInt32 >>> 8 = 0 := by
      revert byte
      exact forall_uint8 (by decide +kernel)
    rw [UInt32.shiftRight_xor, small, UInt32.xor_zero]
  rw [foldl_shiftBit (by rw [eight]; decide), eight, bitsWord_byteBits, shifts_byte, high, crcStep,
    entry]

/-- The checksum is the bitwise one (source `crc32c`). -/
lemma crc32c_eq_bitwiseCrc (data : Bytes) (seed : UInt32) :
    crc32c data seed = bitwiseCrc 0x82f63b78 data seed := by
  have steps (crc : UInt32) : data.foldl (crcStep crc32cEntry) crc =
      (data.flatMap byteBits).foldl (shiftBit 0x82f63b78) crc := by
    induction data generalizing crc with
    | nil => rfl
    | cons byte rest ih =>
      rw [List.foldl_cons, ih, List.flatMap_cons, List.foldl_append, crcStep_crc32cEntry]
  exact congrArg (~~~ ·) (steps (~~~seed))

/-- The checksum continues over a concatenation, is the bitwise reflected checksum of its polynomial,
and is different for inputs of one length that differ only inside four consecutive bytes
(source `crc32c`). -/
theorem crc32c_correct (a b : Bytes) (seed : UInt32) :
    crc32c b (crc32c a seed) = crc32c (a ++ b) seed ∧
    crc32c a seed = bitwiseCrc 0x82f63b78 a seed ∧
    (a.length = b.length → a ≠ b → ∀ start : Nat,
      (∀ i : Nat, a[i]? ≠ b[i]? → start ≤ i ∧ i < start + 4) → crc32c a seed ≠ crc32c b seed) := by
  refine ⟨?_, crc32c_eq_bitwiseCrc a seed, fun length differ start window same => ?_⟩
  · rw [crc32c, crc32c, crc32c, UInt32.not_not, List.foldl_append]
  · exact foldl_window_ne crc32cEntry_top (~~~seed) length differ window (UInt32.not_inj.1 same)

/-- Two texts that differ in their last byte have different checksums. -/
theorem crc32c_correct_texts : crc32c (text "abc") 0 ≠ crc32c (text "abd") 0 := by
  refine (crc32c_correct (text "abc") (text "abd") 0).2.2 (by decide) (by decide) 2 fun i differ => ?_
  by_cases inside : i < 3
  · have last : ∀ i < 3, (text "abc")[i]? ≠ (text "abd")[i]? → 2 ≤ i ∧ i < 2 + 4 := by decide
    exact last i inside differ
  · have beyond : (text "abc")[i]? = (text "abd")[i]? := by
      rw [List.getElem?_eq_none (Nat.not_lt.1 inside), List.getElem?_eq_none (Nat.not_lt.1 inside)]
    exact absurd beyond differ

end TransceiverRegistry
