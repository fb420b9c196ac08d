import Mathlib.Algebra.Group.Nat.Defs
import Mathlib.Tactic.Common

/-!
# Little-endian numbers

A number is written as a given count of bytes, the least significant one first. Reading the bytes
back gives the number modulo the range of the count, and bytes of one count are determined by the
number they stand for.
-/

namespace Lib

/-- The `n` low bytes of a number, the least significant one first. -/
def littleEndian : (n : Nat) → (v : Nat) → List UInt8
  | 0, _ => []
  | n + 1, v => UInt8.ofNat (v % 256) :: littleEndian n (v / 256)

/-- The number of some bytes, the least significant one first. -/
def ofLittleEndian : List UInt8 → Nat
  | [] => 0
  | b :: rest => b.toNat + 256 * ofLittleEndian rest

@[simp] lemma length_littleEndian {n v : Nat} : (littleEndian n v).length = n := by
  induction n generalizing v with
  | zero => rfl
  | succ n ih => rw [littleEndian, List.length_cons, ih]

/-- Bytes stand for a number in the range of their count. -/
lemma ofLittleEndian_lt (l : List UInt8) : ofLittleEndian l < 256 ^ l.length := by
  induction l with
  | nil => decide
  | cons b rest ih =>
    have := b.toNat_lt
    rw [ofLittleEndian, List.length_cons, Nat.pow_succ]
    omega

/-- A written number is read back modulo the range of its bytes. -/
lemma ofLittleEndian_littleEndian_mod (n v : Nat) :
    ofLittleEndian (littleEndian n v) = v % 256 ^ n := by
  induction n generalizing v with
  | zero => simp [littleEndian, ofLittleEndian, Nat.mod_one]
  | succ n ih =>
    have low : (UInt8.ofNat (v % 256)).toNat = v % 256 := by
      rw [UInt8.toNat_ofNat']
      omega
    rw [littleEndian, ofLittleEndian, ih, low, Nat.pow_succ, Nat.mul_comm (256 ^ n), Nat.mod_mul]

/-- A number in the range of its bytes is read back. -/
lemma ofLittleEndian_littleEndian {n v : Nat} (fits : v < 256 ^ n) :
    ofLittleEndian (littleEndian n v) = v := by
  rw [ofLittleEndian_littleEndian_mod, Nat.mod_eq_of_lt fits]

/-- The bytes of a number that was read are the bytes it was read from. -/
lemma littleEndian_ofLittleEndian (l : List UInt8) :
    littleEndian l.length (ofLittleEndian l) = l := by
  induction l with
  | nil => rfl
  | cons b rest ih =>
    have low : (b.toNat + 256 * ofLittleEndian rest) % 256 = b.toNat := by
      have := b.toNat_lt
      omega
    have high : (b.toNat + 256 * ofLittleEndian rest) / 256 = ofLittleEndian rest := by
      have := b.toNat_lt
      omega
    rw [ofLittleEndian, List.length_cons, littleEndian, low, high, ih, UInt8.ofNat_toNat]

/-- Bytes of one count that stand for the same number are the same. -/
lemma ofLittleEndian_inj {l l' : List UInt8} (length : l.length = l'.length)
    (same : ofLittleEndian l = ofLittleEndian l') : l = l' := by
  rw [← littleEndian_ofLittleEndian l, ← littleEndian_ofLittleEndian l', length, same]

/-- Bytes stand for a number when they are the bytes of it. -/
lemma ofLittleEndian_eq_iff {l : List UInt8} {v : Nat} (fits : v < 256 ^ l.length) :
    ofLittleEndian l = v ↔ l = littleEndian l.length v := by
  constructor
  · rintro rfl
    exact (littleEndian_ofLittleEndian l).symm
  · intro same
    rw [same, ofLittleEndian_littleEndian fits]

end Lib
