import Mathlib.Data.List.Basic
import Mathlib.Data.List.Induction
import Mathlib.Data.Nat.Bitwise
import TransceiverRegistry.Lib.Checksum

/-!
# Reflected remainders

A reflected checksum of 32 bits, bit by bit: the remainder is shifted by one place for every bit of
the input, and shifting is linear. Eight shifts look the lowest byte up in a table, so the table-driven
checksum is this one. Four bytes of the input are determined by the remainders around them.
-/

namespace Lib

section Burst

variable {entry : UInt32 → UInt32}

/-- Steps that agree but for their lowest bytes have the same table entry, and states that agree but
for one byte more. -/
lemma crcStep_high (determines : TopDetermines entry) {crc crc' : UInt32} {byte byte' : UInt8} {k : Nat}
    (few : k ≤ 3)
    (h : (crcStep entry crc byte).toNat >>> (8 * k) = (crcStep entry crc' byte').toNat >>> (8 * k)) :
    crc.toUInt8 ^^^ byte = crc'.toUInt8 ^^^ byte' ∧
      crc.toNat >>> (8 * (k + 1)) = crc'.toNat >>> (8 * (k + 1)) := by
  have top : crcStep entry crc byte >>> 24 = crcStep entry crc' byte' >>> 24 := by
    have far := congrArg (· >>> (8 * (3 - k))) h
    simp only [← Nat.shiftRight_add] at far
    have places : 8 * k + 8 * (3 - k) = 24 := by omega
    rw [places] at far
    apply UInt32.toNat_inj.1
    rw [UInt32.toNat_shiftRight, UInt32.toNat_shiftRight]
    exact far
  simp only [crcStep_top, crc_index] at top
  have index := determines _ _ top
  refine ⟨index, ?_⟩
  simp only [crcStep, crc_index, index, UInt32.toNat_xor, UInt32.toNat_shiftRight,
    Nat.shiftRight_xor_distrib] at h
  have rest := Nat.xor_right_injective h
  simp only [← Nat.shiftRight_add] at rest
  have places : (8 : UInt32).toNat % 32 + 8 * k = 8 * (k + 1) := by
    rw [show (8 : UInt32).toNat % 32 = 8 from rfl]
    omega
  rwa [places] at rest

/-- At most four bytes are determined by the state before them and the checksum after them. -/
lemma crcSteps_injective (determines : TopDetermines entry) (crc : UInt32) {l l' : List UInt8}
    (length : l.length = l'.length) {k : Nat} (few : l.length + k ≤ 4)
    (h : (l.foldl (crcStep entry) crc).toNat >>> (8 * k) =
      (l'.foldl (crcStep entry) crc).toNat >>> (8 * k)) : l = l' := by
  induction l using List.reverseRecOn generalizing l' k with
  | nil => exact (List.length_eq_zero_iff.1 length.symm).symm
  | append_singleton l byte ih =>
    obtain rfl | ⟨l', byte', rfl⟩ := List.eq_nil_or_concat' l'
    · simp at length
    rw [List.length_append, List.length_append] at length
    rw [List.length_append, List.length_singleton] at few
    rw [List.foldl_append, List.foldl_append] at h
    obtain ⟨index, high⟩ := crcStep_high determines (by omega) h
    obtain rfl := ih (by simpa using length) (by omega) high
    rw [UInt8.xor_right_inj] at index
    rw [index]

/-- Inputs of one length that differ only inside a window of four bytes have different checksums. -/
lemma foldl_window_ne (determines : TopDetermines entry) (crc : UInt32) {l l' : List UInt8}
    (length : l.length = l'.length) (differ : l ≠ l') {start : Nat}
    (window : ∀ i : Nat, l[i]? ≠ l'[i]? → start ≤ i ∧ i < start + 4) :
    l.foldl (crcStep entry) crc ≠ l'.foldl (crcStep entry) crc := by
  have same (i : Nat) (outside : i < start ∨ start + 4 ≤ i) : l[i]? = l'[i]? := by
    by_contra other
    have := window i other
    omega
  have front : l.take start = l'.take start := by
    apply List.ext_getElem?
    intro i
    rw [List.getElem?_take, List.getElem?_take]
    split
    · exact same i (.inl (by assumption))
    · rfl
  have back : (l.drop start).drop 4 = (l'.drop start).drop 4 := by
    apply List.ext_getElem?
    intro i
    rw [List.drop_drop, List.drop_drop, List.getElem?_drop, List.getElem?_drop]
    exact same (start + 4 + i) (.inr (by omega))
  have parts (m : List UInt8) : m = m.take start ++ ((m.drop start).take 4 ++ (m.drop start).drop 4) := by
    rw [List.take_append_drop, List.take_append_drop]
  intro h
  rw [parts l, parts l', List.foldl_append, List.foldl_append, List.foldl_append, List.foldl_append,
    front, back] at h
  have middle : (l.drop start).take 4 = (l'.drop start).take 4 := by
    refine crcSteps_injective determines ((l'.take start).foldl (crcStep entry) crc) (k := 0) ?_ ?_ ?_
    · rw [List.length_take, List.length_take, List.length_drop, List.length_drop, length]
    · rw [List.length_take]
      omega
    · rw [foldl_injective (crcStep_state determines) _ h]
  rw [parts l, parts l', front, back, middle] at differ
  exact differ rfl

end Burst

section Serial

/-- Shift a reflected remainder by one place (source `make_crc32c_table`, the inner loop). -/
def reflectedShift (poly crc : UInt32) : UInt32 :=
  if crc &&& 1 ≠ 0 then (crc >>> 1) ^^^ poly else crc >>> 1

/-- Shift one bit of the input into a reflected remainder: the polynomial is subtracted when the bit
differs from the one that is shifted out. -/
def shiftBit (poly crc : UInt32) (bit : Bool) : UInt32 :=
  if (crc.toNat.testBit 0 ^^ bit) = true then (crc >>> 1) ^^^ poly else crc >>> 1

/-- The bits of a byte, the lowest one first. -/
def byteBits (byte : UInt8) : List Bool := (List.range 8).map byte.toNat.testBit

/-- The word with the given bits, the lowest one first. -/
def bitsWord : List Bool → UInt32
  | [] => 0
  | bit :: rest => (if bit then (1 : UInt32) else 0) ^^^ (bitsWord rest <<< 1)

variable {poly : UInt32}

/-- The lowest bit of a remainder. -/
lemma and_one_ne_zero (crc : UInt32) : crc &&& 1 ≠ 0 ↔ crc.toNat.testBit 0 = true := by
  rw [ne_eq, ← UInt32.toNat_inj, UInt32.toNat_and]
  simp [Nat.and_one_is_mod, Nat.testBit_zero]

/-- The polynomial is subtracted when the lowest bit is set. -/
lemma reflectedShift_eq (crc : UInt32) : reflectedShift poly crc =
    (crc >>> 1) ^^^ (if crc.toNat.testBit 0 then poly else 0) := by
  simp only [reflectedShift, and_one_ne_zero]
  split <;> simp

/-- Shifting is linear. -/
lemma reflectedShift_xor (a b : UInt32) :
    reflectedShift poly (a ^^^ b) = reflectedShift poly a ^^^ reflectedShift poly b := by
  have selected : (if (a ^^^ b).toNat.testBit 0 then poly else 0) =
      (if a.toNat.testBit 0 then poly else 0) ^^^ (if b.toNat.testBit 0 then poly else 0) := by
    rw [UInt32.toNat_xor, Nat.testBit_xor]
    cases a.toNat.testBit 0 <;> cases b.toNat.testBit 0 <;> simp
  rw [reflectedShift_eq, reflectedShift_eq, reflectedShift_eq, selected, UInt32.shiftRight_xor]
  ac_rfl

/-- Several shifts are linear. -/
lemma shifts_xor (n : Nat) (a b : UInt32) : (reflectedShift poly)^[n] (a ^^^ b) =
    (reflectedShift poly)^[n] a ^^^ (reflectedShift poly)^[n] b := by
  induction n generalizing a b with
  | zero => rfl
  | succ n ih => rw [Function.iterate_succ_apply, reflectedShift_xor, ih]; rfl

/-- Shifting undoes a multiplication by a power of two. -/
lemma shifts_of_mul {n : Nat} {x y : UInt32} (h : x.toNat = 2 ^ n * y.toNat) :
    (reflectedShift poly)^[n] x = y := by
  induction n generalizing x with
  | zero => exact UInt32.toNat_inj.1 (by rw [Function.iterate_zero, id, h, Nat.pow_zero, Nat.one_mul])
  | succ n ih =>
    rw [Nat.pow_succ, Nat.mul_right_comm, Nat.mul_comm _ 2] at h
    have even : x.toNat.testBit 0 = false := by
      rw [Nat.testBit_zero, h, Nat.mul_mod_right]
      rfl
    rw [Function.iterate_succ_apply, reflectedShift_eq, even]
    refine ih ?_
    simp only [Bool.false_eq_true, if_false, UInt32.xor_zero, UInt32.toNat_shiftRight]
    rw [h]
    exact Nat.mul_div_cancel_left _ (by decide)

/-- The bits behind the first one, one place lower. -/
lemma bitsWord_rest {bits : List Bool} (few : bits.length < 32)
    (small : (bitsWord bits).toNat < 2 ^ bits.length) :
    (bitsWord bits <<< 1).toNat = 2 * (bitsWord bits).toNat := by
  have bound : 2 ^ bits.length ≤ 2 ^ 31 := Nat.pow_le_pow_right (by decide) (by omega)
  rw [UInt32.toNat_shiftLeft]
  change (bitsWord bits).toNat <<< 1 % 2 ^ 32 = _
  rw [Nat.shiftLeft_eq]
  omega

/-- A word of few bits is small. -/
lemma bitsWord_lt (bits : List Bool) (few : bits.length ≤ 32) :
    (bitsWord bits).toNat < 2 ^ bits.length := by
  induction bits with
  | nil => decide
  | cons bit rest ih =>
    rw [List.length_cons] at few
    have small := ih (by omega)
    rw [bitsWord, UInt32.toNat_xor, bitsWord_rest (by omega) small, List.length_cons]
    refine Nat.xor_lt_two_pow ?_ ?_
    · split
      · exact Nat.one_lt_two_pow (Nat.succ_ne_zero _)
      · exact Nat.two_pow_pos _
    · rw [Nat.pow_succ]
      omega

/-- Shifting some bits into a remainder is shifting the remainder after all of them were added. -/
lemma foldl_shiftBit {bits : List Bool} (few : bits.length ≤ 32) (crc : UInt32) :
    bits.foldl (shiftBit poly) crc = (reflectedShift poly)^[bits.length] (crc ^^^ bitsWord bits) := by
  induction bits generalizing crc with
  | nil => simp [bitsWord]
  | cons bit rest ih =>
    rw [List.length_cons] at few
    have small := bitsWord_lt rest (by omega)
    have undone : reflectedShift poly (bitsWord rest <<< 1) = bitsWord rest :=
      shifts_of_mul (n := 1) (bitsWord_rest (by omega) small)
    have one : reflectedShift poly 1 = poly := by
      rw [reflectedShift_eq]
      exact UInt32.zero_xor
    have zero : reflectedShift poly 0 = 0 := by
      rw [reflectedShift_eq]
      exact UInt32.zero_xor
    have first : shiftBit poly crc bit = reflectedShift poly (crc ^^^ if bit then 1 else 0) := by
      rw [reflectedShift_xor, reflectedShift_eq, shiftBit]
      cases crc.toNat.testBit 0 <;> cases bit <;>
        simp only [one, zero, if_true, if_false, Bool.false_eq_true, Bool.not_true, Bool.not_false,
          Bool.xor_true, Bool.xor_false, UInt32.xor_assoc, UInt32.xor_self, UInt32.xor_zero]
    rw [List.foldl_cons, ih (by omega), List.length_cons, Function.iterate_succ_apply, bitsWord,
      ← UInt32.xor_assoc, reflectedShift_xor, undone, first]

/-- Eight shifts look the lowest byte up and move the rest of the remainder down. -/
lemma shifts_byte (crc : UInt32) : (reflectedShift poly)^[8] crc =
    (reflectedShift poly)^[8] (crc &&& 0xff) ^^^ (crc >>> 8) := by
  have high : (reflectedShift poly)^[8] (crc ^^^ (crc &&& 0xff)) = crc >>> 8 := by
    refine shifts_of_mul ?_
    rw [UInt32.toNat_xor, UInt32.toNat_and, UInt32.toNat_shiftRight]
    apply Nat.eq_of_testBit_eq
    intro i
    have mask : (0xff : UInt32).toNat.testBit i = decide (i < 8) := Nat.testBit_two_pow_sub_one 8 i
    have shift : (8 : UInt32).toNat % 32 = 8 := rfl
    rw [Nat.testBit_xor, Nat.testBit_and, mask, shift, Nat.testBit_two_pow_mul, Nat.testBit_shiftRight]
    by_cases low : i < 8
    · simp [low, Nat.not_le.2 low]
    · have place : 8 + (i - 8) = i := by omega
      simp [low, Nat.not_lt.1 low, place]
  have parts : crc = (crc &&& 0xff) ^^^ (crc ^^^ (crc &&& 0xff)) := by
    rw [UInt32.xor_comm crc, ← UInt32.xor_assoc, UInt32.xor_self, UInt32.zero_xor]
  nth_rewrite 1 [parts]
  rw [shifts_xor, high]

/-- The bitwise reflected checksum with a polynomial, continued from the checksum of earlier bytes. -/
def bitwiseCrc (poly : UInt32) (data : List UInt8) (seed : UInt32) : UInt32 :=
  ~~~(data.flatMap byteBits).foldl (shiftBit poly) (~~~seed)

end Serial

end Lib
