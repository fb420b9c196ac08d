import TransceiverRegistry.Core.Base
import TransceiverRegistry.Lib.Checksum
import Mathlib.Tactic.Common

/-!
# Digests and checksums

Port of `digest.cpp`: the streaming SHA-256 hash, its hexadecimal rendering and the table-driven
CRC-32C. Words are `UInt32`, so sums wrap as they do in the source.
-/

namespace TransceiverRegistry

open Lib

/-- A SHA-256 digest (source `Digest`). -/
structure Digest where
  bytes : Vector UInt8 32
deriving DecidableEq

/-- The digest of nothing (source `Digest::zero`). -/
def Digest.zero : Digest := ⟨Vector.replicate 32 0⟩

/-- The round constants (source `kSha256K`). -/
def kSha256K : List UInt32 := [
  0x428a2f98, 0x71374491, 0xb5c0fbcf, 0xe9b5dba5, 0x3956c25b, 0x59f111f1, 0x923f82a4, 0xab1c5ed5,
  0xd807aa98, 0x12835b01, 0x243185be, 0x550c7dc3, 0x72be5d74, 0x80deb1fe, 0x9bdc06a7, 0xc19bf174,
  0xe49b69c1, 0xefbe4786, 0x0fc19dc6, 0x240ca1cc, 0x2de92c6f, 0x4a7484aa, 0x5cb0a9dc, 0x76f988da,
  0x983e5152, 0xa831c66d, 0xb00327c8, 0xbf597fc7, 0xc6e00bf3, 0xd5a79147, 0x06ca6351, 0x14292967,
  0x27b70a85, 0x2e1b2138, 0x4d2c6dfc, 0x53380d13, 0x650a7354, 0x766a0abb, 0x81c2c92e, 0x92722c85,
  0xa2bfe8a1, 0xa81a664b, 0xc24b8b70, 0xc76c51a3, 0xd192e819, 0xd6990624, 0xf40e3585, 0x106aa070,
  0x19a4c116, 0x1e376c08, 0x2748774c, 0x34b0bcb5, 0x391c0cb3, 0x4ed8aa4a, 0x5b9cca4f, 0x682e6ff3,
  0x748f82ee, 0x78a5636f, 0x84c87814, 0x8cc70208, 0x90befffa, 0xa4506ceb, 0xbef9a3f7, 0xc67178f2]

/-- Rotate a word to the right (source `rotr`). -/
def rotr (value bits : UInt32) : UInt32 := (value >>> bits) ||| (value <<< (32 - bits))

/-- The big-endian words of a block. -/
def blockWords : Bytes → List UInt32
  | b0 :: b1 :: b2 :: b3 :: rest =>
    ((b0.toUInt32 <<< 24) ||| (b1.toUInt32 <<< 16) ||| (b2.toUInt32 <<< 8) ||| b3.toUInt32)
      :: blockWords rest
  | _ => []

/-- The message schedule, extended by `n` words (source `Sha256::compress`, the second loop). -/
def extendSchedule : Nat → List UInt32 → List UInt32
  | 0, w => w
  | n + 1, w =>
    let i := w.length
    let w15 := w.getD (i - 15) 0
    let w2 := w.getD (i - 2) 0
    let s0 := rotr w15 7 ^^^ rotr w15 18 ^^^ (w15 >>> 3)
    let s1 := rotr w2 17 ^^^ rotr w2 19 ^^^ (w2 >>> 10)
    extendSchedule n (w ++ [w.getD (i - 16) 0 + s0 + w.getD (i - 7) 0 + s1])

/-- The eight chaining words (source `Sha256::state_`). -/
structure Sha256State where
  a : UInt32
  b : UInt32
  c : UInt32
  d : UInt32
  e : UInt32
  f : UInt32
  g : UInt32
  h : UInt32

/-- One round (source `Sha256::compress`, the body of the third loop). -/
def Sha256State.round (s : Sha256State) (k w : UInt32) : Sha256State :=
  let s1 := rotr s.e 6 ^^^ rotr s.e 11 ^^^ rotr s.e 25
  let ch := (s.e &&& s.f) ^^^ (~~~s.e &&& s.g)
  let temp1 := s.h + s1 + ch + k + w
  let s0 := rotr s.a 2 ^^^ rotr s.a 13 ^^^ rotr s.a 22
  let maj := (s.a &&& s.b) ^^^ (s.a &&& s.c) ^^^ (s.b &&& s.c)
  let temp2 := s0 + maj
  ⟨temp1 + temp2, s.a, s.b, s.c, s.d + temp1, s.e, s.f, s.g⟩

/-- Absorb one block (source `Sha256::compress`). -/
def Sha256State.compress (s : Sha256State) (block : Bytes) : Sha256State :=
  let w := extendSchedule 48 (blockWords block)
  let t := (kSha256K.zip w).foldl (fun t kw => t.round kw.1 kw.2) s
  ⟨s.a + t.a, s.b + t.b, s.c + t.c, s.d + t.d, s.e + t.e, s.f + t.f, s.g + t.g, s.h + t.h⟩

/-- A hash in progress; `buffer` holds the `buffer_used_` bytes not absorbed yet
(source `Sha256`). -/
structure Sha256 where
  state : Sha256State
  buffer : Bytes
  totalBytes : UInt64

/-- A fresh hash (source `Sha256::Sha256`). -/
def Sha256.new : Sha256 where
  state := ⟨0x6a09e667, 0xbb67ae85, 0x3c6ef372, 0xa54ff53a,
    0x510e527f, 0x9b05688c, 0x1f83d9ab, 0x5be0cd19⟩
  buffer := []
  totalBytes := 0

/-- Absorb `n` whole blocks from the front (source `Sha256::update`, the loop). -/
def Sha256State.absorb : Nat → Sha256State → Bytes → Sha256State
  | 0, s, _ => s
  | n + 1, s, bytes => absorb n (s.compress (bytes.take 64)) (bytes.drop 64)

/-- Add bytes to a hash (source `Sha256::update`). -/
def Sha256.update (hasher : Sha256) (bytes : Bytes) : Sha256 :=
  if bytes = [] then hasher
  else
    let total := hasher.totalBytes + UInt64.ofNat bytes.length
    let take := if hasher.buffer = [] then 0 else min bytes.length (64 - hasher.buffer.length)
    let buffer := hasher.buffer ++ bytes.take take
    let full := take ≠ 0 ∧ buffer.length = 64
    let state := if full then hasher.state.compress buffer else hasher.state
    let rest := bytes.drop take
    -- a buffer that is still filling swallowed the whole input
    if take ≠ 0 ∧ ¬ full then ⟨state, buffer, total⟩
    else ⟨state.absorb (rest.length / 64) rest, rest.drop (64 * (rest.length / 64)), total⟩

/-- Add zero bytes until the length field fits (source `Sha256::finish`, the loop). -/
def Sha256.padZeros : Nat → Sha256 → Sha256
  | 0, hasher => hasher
  | n + 1, hasher =>
    if hasher.buffer.length = 56 then hasher else padZeros n (hasher.update [0])

/-- The four big-endian bytes of a word. -/
def wordBytes (w : UInt32) : Vector UInt8 4 :=
  #v[(w >>> 24).toUInt8, (w >>> 16).toUInt8, (w >>> 8).toUInt8, w.toUInt8]

/-- The eight big-endian bytes of the bit length. -/
def lengthBytes (n : UInt64) : Bytes :=
  ([56, 48, 40, 32, 24, 16, 8, 0] : List UInt64).map fun shift => (n >>> shift).toUInt8

/-- Finish a hash (source `Sha256::finish`). -/
def Sha256.finish (hasher : Sha256) : Digest :=
  let bitLength := hasher.totalBytes * 8
  let s := ((hasher.update [0x80]).padZeros 64 |>.update (lengthBytes bitLength)).state
  ⟨(wordBytes s.a ++ wordBytes s.b ++ wordBytes s.c ++ wordBytes s.d ++ wordBytes s.e ++
    wordBytes s.f ++ wordBytes s.g ++ wordBytes s.h).cast (by decide)⟩

/-- The hash of a byte string (source `sha256`). -/
def sha256 (data : Bytes) : Digest := (Sha256.new.update data).finish

/-- One hexadecimal digit (source `kHex`). -/
def hexDigit (n : UInt8) : UInt8 := if n < 10 then 48 + n else 87 + n

/-- The value of one hexadecimal digit (source `Digest::from_hex`, `nibble`). -/
def nibble (ch : UInt8) : Option UInt8 :=
  if 48 ≤ ch ∧ ch ≤ 57 then some (ch - 48)
  else if 97 ≤ ch ∧ ch ≤ 102 then some (ch - 97 + 10)
  else if 65 ≤ ch ∧ ch ≤ 70 then some (ch - 65 + 10)
  else none

/-- The hexadecimal rendering of bytes (source `Digest::to_hex`, the loop). -/
def hexBytes : Bytes → Bytes
  | [] => []
  | b :: rest => hexDigit (b >>> 4) :: hexDigit (b &&& 15) :: hexBytes rest

/-- The hexadecimal rendering of a digest (source `Digest::to_hex`). -/
def Digest.toHex (digest : Digest) : Bytes := hexBytes digest.bytes.toList

/-- The bytes of a hexadecimal rendering (source `Digest::from_hex`, the loop). -/
def bytesOfHex : Bytes → Option Bytes
  | hi :: lo :: rest => do
    let hi ← nibble hi
    let lo ← nibble lo
    let bytes ← bytesOfHex rest
    some (((hi <<< 4) ||| lo) :: bytes)
  | _ => some []

/-- Reading hexadecimal digits yields half as many bytes. -/
lemma bytesOfHex_length : ∀ {t bytes : Bytes}, bytesOfHex t = some bytes →
    bytes.length = t.length / 2
  | [], _, h => by cases h; rfl
  | [_], _, h => by cases h; simp
  | _ :: _ :: rest, _, h => by
    simp only [bytesOfHex, Option.bind_eq_bind, Option.bind_eq_some_iff, Option.some.injEq] at h
    obtain ⟨_, _, _, _, bytes, h, rfl⟩ := h
    simp only [List.length_cons, bytesOfHex_length h]
    omega

/-- Read a digest from its hexadecimal rendering (source `Digest::from_hex`). -/
def Digest.fromHex (t : Bytes) : Result Digest :=
  if length : t.length = 64 then
    match h : bytesOfHex t with
    | some bytes => .ok ⟨⟨bytes.toArray, by simp [bytesOfHex_length h, length]⟩⟩
    | none => .error (makeError .invalidArgument "digest hex text contains a non-hex character")
  else .error (makeError .invalidArgument "digest hex text must be exactly 64 characters")

/-- Reading undoes rendering, byte by byte. -/
lemma bytesOfHex_hexBytes (bytes : Bytes) : bytesOfHex (hexBytes bytes) = some bytes := by
  have digit : ∀ b : UInt8, nibble (hexDigit (b >>> 4)) = some (b >>> 4) ∧
      nibble (hexDigit (b &&& 15)) = some (b &&& 15) ∧
      ((b >>> 4) <<< 4) ||| (b &&& 15) = b := forall_uint8 (by decide +kernel)
  induction bytes with
  | nil => rfl
  | cons b rest ih =>
    obtain ⟨hi, lo, both⟩ := digit b
    simp [hexBytes, bytesOfHex, hi, lo, ih, both]

/-- Rendering a digest takes 64 digits (source `Digest::to_hex`). -/
lemma Digest.toHex_length (digest : Digest) : digest.toHex.length = 64 := by
  have two : ∀ bytes : Bytes, (hexBytes bytes).length = 2 * bytes.length := by
    intro bytes
    induction bytes with
    | nil => rfl
    | cons b rest ih =>
      simp only [hexBytes, List.length_cons, ih]
      omega
  simp [toHex, two]

/-- Reading undoes rendering (source `Digest::from_hex`). -/
lemma Digest.fromHex_toHex (digest : Digest) : fromHex digest.toHex = .ok digest := by
  unfold fromHex
  rw [dif_pos digest.toHex_length]
  split
  · rename_i bytes h
    rw [toHex, bytesOfHex_hexBytes, Option.some.injEq] at h
    subst h
    rfl
  · rename_i h
    rw [toHex, bytesOfHex_hexBytes] at h
    cases h

/-- The entry of the checksum table for a byte (source `make_crc32c_table`). -/
def crc32cEntry (i : UInt32) : UInt32 :=
  let bit (crc : UInt32) := if crc &&& 1 ≠ 0 then (crc >>> 1) ^^^ 0x82f63b78 else crc >>> 1
  bit (bit (bit (bit (bit (bit (bit (bit i)))))))

/-- The CRC-32C checksum, continued from the checksum of earlier bytes (source `crc32c`). -/
def crc32c (data : Bytes) (seed : UInt32) : UInt32 :=
  ~~~data.foldl (fun crc byte => crc32cEntry ((crc ^^^ byte.toUInt32) &&& 0xff) ^^^ (crc >>> 8))
    (~~~seed)

example : crc32c (text "123456789") 0 = 0xe3069283 := by decide +kernel

/-- Undo one bit of a table entry. -/
def unshiftBit (crc : UInt32) : UInt32 :=
  if crc &&& 0x80000000 ≠ 0 then ((crc ^^^ 0x82f63b78) <<< 1) ||| 1 else crc <<< 1

/-- The top byte of an entry of the checksum table determines its index
(source `make_crc32c_table`). -/
lemma crc32cEntry_top : TopDetermines crc32cEntry := by
  -- undoing the eight bits needs no more than the top byte
  have undo : ∀ i : UInt8, (unshiftBit (unshiftBit (unshiftBit (unshiftBit (unshiftBit (unshiftBit
      (unshiftBit (unshiftBit ((crc32cEntry i.toUInt32 >>> 24) <<< 24))))))))).toUInt8 = i :=
    forall_uint8 (by decide +kernel)
  intro i j h
  rw [← undo i, h, undo j]

/-- Changing one byte of an input changes its checksum (source `crc32c`). -/
lemma crc32c_set_ne {data : Bytes} {i : Nat} (hi : i < data.length) {byte : UInt8}
    (ne : byte ≠ data[i]) (seed : UInt32) : crc32c (data.set i byte) seed ≠ crc32c data seed := by
  intro h
  exact foldl_set_ne (crcStep_state crc32cEntry_top) (crcStep_byte crc32cEntry_top) hi ne (~~~seed)
    (UInt32.not_inj.1 h)

end TransceiverRegistry
