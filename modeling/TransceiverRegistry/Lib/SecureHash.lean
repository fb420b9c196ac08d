import TransceiverRegistry.Lib.Blocks
import TransceiverRegistry.Lib.LittleEndian
import Mathlib.Data.Nat.NthRoot.Defs
import Mathlib.Data.Nat.Prime.Defs

/-!
# SHA-256

The hash of FIPS 180-4 for messages of whole bytes: the message is padded to whole blocks, which are
absorbed one after the other. The constants are the leading fractional bits of the roots of the first
primes, and a word is the number that its four bytes write.
-/

namespace Lib

/-- The number of some bytes, the most significant one first. -/
def ofBigEndian (bytes : List UInt8) : Nat := ofLittleEndian bytes.reverse

/-- The `n` low bytes of a number, the most significant one first. -/
def bigEndian (n v : Nat) : List UInt8 := (littleEndian n v).reverse

/-- Bytes stand for a number in the range of their count. -/
lemma ofBigEndian_lt (bytes : List UInt8) : ofBigEndian bytes < 256 ^ bytes.length := by
  rw [ofBigEndian, ← List.length_reverse]
  exact ofLittleEndian_lt bytes.reverse

/-- The first 32 fractional bits of the `k`-th root of `n`: those are the low bits of the root of
`n * 2 ^ (32 * k)`. -/
def rootFraction (k n : Nat) : BitVec 32 := BitVec.ofNat 32 (Nat.nthRoot k (n * 2 ^ (32 * k)))

/-- The first 64 primes. -/
def firstPrimes : List Nat := (List.range 312).filter fun n => decide n.Prime

/-- The constant of a round: the fractional bits of the cube root of its prime. -/
def roundConstant (t : Nat) : BitVec 32 := rootFraction 3 (firstPrimes.getD t 0)

section Functions

variable (x y z : BitVec 32)

/-- The function Ch. -/
def choice : BitVec 32 := (x &&& y) ^^^ (~~~x &&& z)

/-- The function Maj. -/
def majority : BitVec 32 := (x &&& y) ^^^ (x &&& z) ^^^ (y &&& z)

/-- The function Σ0. -/
def upperSigma0 : BitVec 32 := x.rotateRight 2 ^^^ x.rotateRight 13 ^^^ x.rotateRight 22

/-- The function Σ1. -/
def upperSigma1 : BitVec 32 := x.rotateRight 6 ^^^ x.rotateRight 11 ^^^ x.rotateRight 25

/-- The function σ0. -/
def lowerSigma0 : BitVec 32 := x.rotateRight 7 ^^^ x.rotateRight 18 ^^^ x >>> 3

/-- The function σ1. -/
def lowerSigma1 : BitVec 32 := x.rotateRight 17 ^^^ x.rotateRight 19 ^^^ x >>> 10

end Functions

/-- The word at a place of a block. -/
def blockWord (block : List UInt8) (t : Nat) : BitVec 32 :=
  BitVec.ofNat 32 (ofBigEndian ((block.drop (4 * t)).take 4))

/-- The message schedule: the words of the block, then each from the ones before it. -/
def schedule (block : List UInt8) (t : Nat) : BitVec 32 :=
  if t < 16 then blockWord block t
  else lowerSigma1 (schedule block (t - 2)) + schedule block (t - 7) +
    lowerSigma0 (schedule block (t - 15)) + schedule block (t - 16)

/-- The eight words of a hash value, or the eight working variables. -/
structure HashValue where
  a : BitVec 32
  b : BitVec 32
  c : BitVec 32
  d : BitVec 32
  e : BitVec 32
  f : BitVec 32
  g : BitVec 32
  h : BitVec 32
deriving DecidableEq

namespace HashValue

/-- The initial hash value: the fractional bits of the square roots of the first primes. -/
def initial : HashValue :=
  ⟨rootFraction 2 2, rootFraction 2 3, rootFraction 2 5, rootFraction 2 7,
    rootFraction 2 11, rootFraction 2 13, rootFraction 2 17, rootFraction 2 19⟩

/-- One round, with its constant and its word of the schedule. -/
def round (v : HashValue) (k w : BitVec 32) : HashValue :=
  let t1 := v.h + upperSigma1 v.e + choice v.e v.f v.g + k + w
  let t2 := upperSigma0 v.a + majority v.a v.b v.c
  ⟨t1 + t2, v.a, v.b, v.c, v.d + t1, v.e, v.f, v.g⟩

/-- The working variables after the 64 rounds. -/
def rounds (v : HashValue) (block : List UInt8) : HashValue :=
  (List.range 64).foldl (fun v t => v.round (roundConstant t) (schedule block t)) v

/-- Absorb one block: the working variables are added to the hash value. -/
def absorb (v : HashValue) (block : List UInt8) : HashValue :=
  let w := v.rounds block
  ⟨v.a + w.a, v.b + w.b, v.c + w.c, v.d + w.d, v.e + w.e, v.f + w.f, v.g + w.g, v.h + w.h⟩

/-- The bytes of a hash value. -/
def bytes (v : HashValue) : List UInt8 :=
  [v.a, v.b, v.c, v.d, v.e, v.f, v.g, v.h].flatMap fun word => bigEndian 4 word.toNat

end HashValue

/-- What is appended to a message of `n` bytes: a one bit, zeros up to eight bytes before the end of a
block, and the number of bits of the message. -/
def padding (n : Nat) : List UInt8 :=
  0x80 :: List.replicate ((119 - n % 64) % 64) 0 ++ bigEndian 8 (8 * n)

/-- The hash of a message. -/
def secureHash (message : List UInt8) : List UInt8 :=
  let padded := message ++ padding message.length
  (foldBlocks HashValue.absorb 64 (padded.length / 64) .initial padded).bytes

/-- The hash is that of the bytes fed one by one. -/
lemma secureHash_eq_feed (message : List UInt8) :
    secureHash message = ((message ++ padding message.length).foldl (feed HashValue.absorb 64)
      (HashValue.initial, [])).1.bytes := by
  rw [foldl_feed (by decide)]
  rfl

end Lib
