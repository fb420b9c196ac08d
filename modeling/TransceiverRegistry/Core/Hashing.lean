import TransceiverRegistry.Core.Digest
import TransceiverRegistry.Lib.SecureHash

/-!
# The streaming hash

The hash of `digest.cpp` keeps the bytes of a block that is not full beside its chaining words. However
the input is cut into updates, these are what feeding the input byte by byte leaves, and finishing the
hash feeds the padding, so the result is the SHA-256 of the whole input.
-/

namespace TransceiverRegistry

open Lib

/-- The words of a chaining state. -/
def Sha256State.value (s : Sha256State) : HashValue where
  a := s.a.toBitVec
  b := s.b.toBitVec
  c := s.c.toBitVec
  d := s.d.toBitVec
  e := s.e.toBitVec
  f := s.f.toBitVec
  g := s.g.toBitVec
  h := s.h.toBitVec

section Compression

variable {s : Sha256State} {x : UInt32} {n : Nat}

/-- A rotation to the right (source `rotr`). -/
lemma toBitVec_rotr (some : 0 < n) (less : n < 32) :
    (rotr x (UInt32.ofNat n)).toBitVec = x.toBitVec.rotateRight n := by
  have right : (UInt32.ofNat n).toBitVec.toNat = n :=
    UInt32.toNat_ofNat_of_lt' (Nat.lt_trans less (by decide))
  have left : (32 - UInt32.ofNat n).toBitVec.toNat = 32 - n := by
    have fits : UInt32.ofNat n ≤ 32 := by
      rw [UInt32.le_iff_toNat_le]
      exact Nat.le_trans (Nat.le_of_eq right) (Nat.le_of_lt less)
    rw [UInt32.toNat_toBitVec, UInt32.toNat_sub_of_le _ _ fits]
    exact congrArg (32 - ·) right
  have word : (32 : BitVec 32).toNat = 32 := rfl
  rw [rotr, UInt32.toBitVec_or, UInt32.toBitVec_shiftRight, UInt32.toBitVec_shiftLeft,
    BitVec.rotateRight_def, Nat.mod_eq_of_lt less, BitVec.ushiftRight_eq', BitVec.shiftLeft_eq',
    BitVec.toNat_umod, BitVec.toNat_umod, right, left, word, Nat.mod_eq_of_lt less,
    Nat.mod_eq_of_lt (Nat.sub_lt (by decide) some)]

/-- The two sums of a round (source `Sha256::compress`, `s0` and `s1` of the third loop). -/
lemma toBitVec_upperSigma :
    (rotr x 2 ^^^ rotr x 13 ^^^ rotr x 22).toBitVec = upperSigma0 x.toBitVec ∧
      (rotr x 6 ^^^ rotr x 11 ^^^ rotr x 25).toBitVec = upperSigma1 x.toBitVec := by
  constructor
  · rw [upperSigma0, ← toBitVec_rotr, ← toBitVec_rotr, ← toBitVec_rotr]
    · rfl
    all_goals decide
  · rw [upperSigma1, ← toBitVec_rotr, ← toBitVec_rotr, ← toBitVec_rotr]
    · rfl
    all_goals decide

/-- The two sums of the schedule (source `Sha256::compress`, `s0` and `s1` of the second loop). -/
lemma toBitVec_lowerSigma :
    (rotr x 7 ^^^ rotr x 18 ^^^ (x >>> 3)).toBitVec = lowerSigma0 x.toBitVec ∧
      (rotr x 17 ^^^ rotr x 19 ^^^ (x >>> 10)).toBitVec = lowerSigma1 x.toBitVec := by
  constructor
  · rw [lowerSigma0, ← toBitVec_rotr, ← toBitVec_rotr]
    · rfl
    all_goals decide
  · rw [lowerSigma1, ← toBitVec_rotr, ← toBitVec_rotr]
    · rfl
    all_goals decide

/-- One round (source `Sha256::compress`, the third loop). -/
lemma value_round {k w : UInt32} :
    (s.round k w).value = s.value.round k.toBitVec w.toBitVec := by
  have upper (x : UInt32) := @toBitVec_upperSigma x
  simp only [Sha256State.value, Sha256State.round, HashValue.round, UInt32.toBitVec_add,
    (upper _).1, (upper _).2]
  rfl

/-- A number shifted over a smaller one. -/
lemma or_eq_add {m k r : Nat} (small : r < 2 ^ k) : m * 2 ^ k ||| r = m * 2 ^ k + r := by
  rw [← Nat.shiftLeft_eq, Nat.shiftLeft_add_eq_or_of_lt small]

/-- A byte at its place in a word. -/
lemma toNat_byte_shiftLeft {b : UInt8} {k : UInt32} (less : k.toNat ≤ 24) :
    (b.toUInt32 <<< k).toNat = b.toNat * 2 ^ k.toNat := by
  have fits : b.toNat * 2 ^ k.toNat < 2 ^ 32 := by
    calc b.toNat * 2 ^ k.toNat < 2 ^ 8 * 2 ^ k.toNat :=
          Nat.mul_lt_mul_of_pos_right b.toNat_lt (Nat.two_pow_pos _)
      _ = 2 ^ (8 + k.toNat) := (Nat.pow_add ..).symm
      _ ≤ 2 ^ 32 := Nat.pow_le_pow_right (by decide) (by omega)
  rw [UInt32.toNat_shiftLeft, UInt8.toNat_toUInt32, Nat.mod_eq_of_lt (a := k.toNat) (by omega),
    Nat.shiftLeft_eq, Nat.mod_eq_of_lt fits]

/-- A word is the number that its four bytes write (source `Sha256::compress`, the first loop). -/
lemma toNat_word (b0 b1 b2 b3 : UInt8) :
    ((b0.toUInt32 <<< 24) ||| (b1.toUInt32 <<< 16) ||| (b2.toUInt32 <<< 8) ||| b3.toUInt32).toNat =
      ofBigEndian [b0, b1, b2, b3] := by
  have h1 := b1.toNat_lt
  have h2 := b2.toNat_lt
  have h3 := b3.toNat_lt
  have word : ofBigEndian [b0, b1, b2, b3] =
      ((b0.toNat * 2 ^ 8 + b1.toNat) * 2 ^ 8 + b2.toNat) * 2 ^ 8 + b3.toNat := by
    simp only [ofBigEndian, List.reverse_cons, List.reverse_nil, List.nil_append,
      List.cons_append, ofLittleEndian]
    omega
  have second : b0.toNat * 2 ^ 24 ||| b1.toNat * 2 ^ 16 =
      (b0.toNat * 2 ^ 8 + b1.toNat) * 2 ^ 16 := by
    rw [or_eq_add (by omega)]
    omega
  have third : (b0.toNat * 2 ^ 8 + b1.toNat) * 2 ^ 16 ||| b2.toNat * 2 ^ 8 =
      ((b0.toNat * 2 ^ 8 + b1.toNat) * 2 ^ 8 + b2.toNat) * 2 ^ 8 := by
    rw [or_eq_add (by omega)]
    omega
  rw [UInt32.toNat_or, UInt32.toNat_or, UInt32.toNat_or, toNat_byte_shiftLeft (by decide),
    toNat_byte_shiftLeft (by decide), toNat_byte_shiftLeft (by decide), UInt8.toNat_toUInt32, word,
    ← or_eq_add h3, ← third, ← second]
  rfl

/-- The first words of the schedule are those of the block (source `Sha256::compress`, the first
loop). -/
lemma blockWords_eq {block : Bytes} (length : block.length = 4 * n) :
    blockWords block = (List.range n).map fun t => UInt32.ofBitVec (blockWord block t) := by
  induction n generalizing block with
  | zero =>
    rw [List.eq_nil_of_length_eq_zero length]
    rfl
  | succ n ih =>
    match block, length with
    | b0 :: b1 :: b2 :: b3 :: rest, length =>
      have shorter : rest.length = 4 * n := by
        rw [List.length_cons, List.length_cons, List.length_cons, List.length_cons] at length
        omega
      have first : UInt32.ofBitVec (blockWord (b0 :: b1 :: b2 :: b3 :: rest) 0) =
          (b0.toUInt32 <<< 24) ||| (b1.toUInt32 <<< 16) ||| (b2.toUInt32 <<< 8) ||| b3.toUInt32 := by
        refine UInt32.toNat_inj.1 ?_
        rw [toNat_word]
        have fits : ofBigEndian [b0, b1, b2, b3] < 2 ^ 32 := by
          simpa using ofBigEndian_lt [b0, b1, b2, b3]
        exact (BitVec.toNat_ofNat (ofBigEndian [b0, b1, b2, b3]) 32).trans (Nat.mod_eq_of_lt fits)
      rw [blockWords, ih shorter, List.range_succ_eq_map, List.map_cons, List.map_map, first]
      rfl

/-- A word of the schedule. -/
def scheduleWord (block : Bytes) (t : Nat) : UInt32 := .ofBitVec (schedule block t)

/-- A later word of the schedule (source `Sha256::compress`, the second loop). -/
lemma scheduleWord_of_le {block : Bytes} {i : Nat} (first : 16 ≤ i) :
    scheduleWord block (i - 16) +
        (rotr (scheduleWord block (i - 15)) 7 ^^^ rotr (scheduleWord block (i - 15)) 18 ^^^
          (scheduleWord block (i - 15) >>> 3)) + scheduleWord block (i - 7) +
        (rotr (scheduleWord block (i - 2)) 17 ^^^ rotr (scheduleWord block (i - 2)) 19 ^^^
          (scheduleWord block (i - 2) >>> 10)) = scheduleWord block i := by
  refine UInt32.toBitVec_inj.1 ?_
  rw [UInt32.toBitVec_add, UInt32.toBitVec_add, UInt32.toBitVec_add, toBitVec_lowerSigma.1,
    toBitVec_lowerSigma.2]
  change schedule block (i - 16) + lowerSigma0 (schedule block (i - 15)) + schedule block (i - 7) +
    lowerSigma1 (schedule block (i - 2)) = schedule block i
  conv_rhs => rw [schedule, if_neg (Nat.not_lt.2 first)]
  ac_rfl

/-- The schedule is extended word by word (source `Sha256::compress`, the second loop). -/
lemma extendSchedule_eq {block : Bytes} {i : Nat} (first : 16 ≤ i) :
    extendSchedule n ((List.range i).map (scheduleWord block)) =
      (List.range (i + n)).map (scheduleWord block) := by
  induction n generalizing i with
  | zero => rfl
  | succ n ih =>
    have word (t : Nat) (earlier : t < i) :
        ((List.range i).map (scheduleWord block)).getD t 0 = scheduleWord block t := by
      rw [List.getD_eq_getElem?_getD, List.getElem?_map, List.getElem?_range earlier, Option.map_some,
        Option.getD_some]
    rw [extendSchedule, List.length_map, List.length_range, word (i - 15) (by omega),
      word (i - 2) (by omega), word (i - 16) (by omega), word (i - 7) (by omega),
      scheduleWord_of_le first, ← List.map_singleton, ← List.map_append, ← List.range_succ,
      ih (Nat.le_succ_of_le first), Nat.succ_add_eq_add_succ]

/-- The schedule of a block (source `Sha256::compress`). -/
lemma extendSchedule_blockWords {block : Bytes} (length : block.length = 64) :
    extendSchedule 48 (blockWords block) = (List.range 64).map (scheduleWord block) := by
  have words : blockWords block = (List.range 16).map (scheduleWord block) := by
    rw [blockWords_eq (n := 16) length]
    refine List.map_congr_left fun t member => ?_
    rw [scheduleWord, schedule, if_pos (List.mem_range.1 member)]
  rw [words, extendSchedule_eq (by decide)]

/-- The primes of the rounds. -/
lemma firstPrimes_eq : firstPrimes = [2, 3, 5, 7, 11, 13, 17, 19, 23, 29, 31, 37, 41, 43, 47, 53,
    59, 61, 67, 71, 73, 79, 83, 89, 97, 101, 103, 107, 109, 113, 127, 131, 137, 139, 149, 151, 157,
    163, 167, 173, 179, 181, 191, 193, 197, 199, 211, 223, 227, 229, 233, 239, 241, 251, 257, 263,
    269, 271, 277, 281, 283, 293, 307, 311] := by
  have few : firstPrimes = (List.range 312).filter fun n =>
      decide (2 ≤ n ∧ ∀ m ∈ List.range 18, 2 ≤ m → m * m ≤ n → ¬ m ∣ n) := by
    refine List.filter_congr fun n member => ?_
    have small := List.mem_range.1 member
    rw [decide_eq_decide, Nat.prime_def_le_sqrt]
    refine and_congr_right fun _ => ⟨fun none m _ two below => ?_, fun none m two below => ?_⟩
    · exact none m two (Nat.le_sqrt.2 below)
    · have square := Nat.le_sqrt.1 below
      have fits : m < 18 := by
        by_contra large
        have := Nat.mul_le_mul (Nat.not_lt.1 large) (Nat.not_lt.1 large)
        omega
      exact none m (List.mem_range.2 fits) two square
  rw [few]
  decide +kernel

/-- The round constants are those of the primes (source `kSha256K`). -/
lemma kSha256K_eq : kSha256K = (List.range 64).map fun t => .ofBitVec (roundConstant t) := by
  simp only [roundConstant, firstPrimes_eq]
  decide +kernel

/-- A block is absorbed (source `Sha256::compress`). -/
lemma value_compress {block : Bytes} (length : block.length = 64) :
    (s.compress block).value = s.value.absorb block := by
  have rounds (l : List Nat) (t : Sha256State) :
      (l.foldl (fun t i => t.round (.ofBitVec (roundConstant i)) (scheduleWord block i)) t).value =
        l.foldl (fun v i => v.round (roundConstant i) (schedule block i)) t.value := by
    induction l generalizing t with
    | nil => rfl
    | cons i rest ih => rw [List.foldl_cons, List.foldl_cons, ih, value_round, scheduleWord]
  rw [Sha256State.compress, extendSchedule_blockWords length, kSha256K_eq, List.zip_map',
    List.foldl_map, HashValue.absorb, HashValue.rounds, ← rounds]
  rfl

/-- The initial words are those of the primes (source `Sha256::Sha256`). -/
lemma value_new : Sha256.new.state.value = .initial := by
  decide +kernel

end Compression

section Updates

variable {hasher : Sha256} {bytes : Bytes} {n : Nat}

/-- The chaining words and the bytes not absorbed yet. -/
def Sha256.fed (hasher : Sha256) : HashValue × Bytes := (hasher.state.value, hasher.buffer)

/-- Whole blocks are absorbed one after the other (source `Sha256::update`, the loop). -/
lemma value_absorb {s : Sha256State} (long : 64 * n ≤ bytes.length) :
    (s.absorb n bytes).value = foldBlocks HashValue.absorb 64 n s.value bytes := by
  induction n generalizing s bytes with
  | zero => rfl
  | succ n ih =>
    have block : (bytes.take 64).length = 64 := by
      rw [List.length_take]
      omega
    rw [Sha256State.absorb, foldBlocks_succ, ih, value_compress block]
    rw [List.length_drop]
    omega

/-- An update with an empty buffer absorbs the whole blocks and keeps the rest
(source `Sha256::update`). -/
lemma fed_update_whole {s : Sha256State} :
    ((s.absorb (bytes.length / 64) bytes).value, bytes.drop (64 * (bytes.length / 64))) =
      bytes.foldl (feed HashValue.absorb 64) (s.value, []) := by
  rw [foldl_feed (by decide), value_absorb (Nat.mul_div_le ..)]

/-- The number of bytes after an update (source `total_bytes_`). -/
def Sha256.total (hasher : Sha256) (bytes : Bytes) : UInt64 :=
  hasher.totalBytes + UInt64.ofNat bytes.length

/-- An update that starts with an empty buffer (source `Sha256::update`). -/
lemma update_start (some : bytes ≠ []) (empty : hasher.buffer = []) :
    hasher.update bytes = ⟨hasher.state.absorb (bytes.length / 64) bytes,
      bytes.drop (64 * (bytes.length / 64)), hasher.total bytes⟩ := by
  simp [Sha256.update, Sha256.total, some, empty]

/-- An update that fills the buffer (source `Sha256::update`). -/
lemma update_fill (part : hasher.buffer ≠ []) (short : hasher.buffer.length < 64)
    (full : 64 ≤ hasher.buffer.length + bytes.length) :
    hasher.update bytes =
      let rest := bytes.drop (64 - hasher.buffer.length)
      ⟨(hasher.state.compress (hasher.buffer ++ bytes.take (64 - hasher.buffer.length))).absorb
        (rest.length / 64) rest, rest.drop (64 * (rest.length / 64)), hasher.total bytes⟩ := by
  have some : bytes ≠ [] := by
    rintro rfl
    rw [List.length_nil] at full
    omega
  have taken : min bytes.length (64 - hasher.buffer.length) = 64 - hasher.buffer.length := by omega
  have positive : 64 - hasher.buffer.length ≠ 0 := by omega
  have whole : (hasher.buffer ++ bytes.take (64 - hasher.buffer.length)).length = 64 := by
    rw [List.length_append, List.length_take]
    omega
  simp only [Sha256.update, Sha256.total, if_neg some, if_neg part, taken, whole, positive,
    ne_eq, not_false_eq_true, true_and, not_true_eq_false, and_false, if_pos, if_neg]

/-- An update that does not fill the buffer (source `Sha256::update`). -/
lemma update_keep (some : bytes ≠ []) (part : hasher.buffer ≠ [])
    (fits : hasher.buffer.length + bytes.length < 64) :
    hasher.update bytes = ⟨hasher.state, hasher.buffer ++ bytes, hasher.total bytes⟩ := by
  have taken : min bytes.length (64 - hasher.buffer.length) = bytes.length := by omega
  have positive : bytes.length ≠ 0 := (List.length_pos_iff.2 some).ne'
  have open' : (hasher.buffer ++ bytes).length ≠ 64 := by
    rw [List.length_append]
    omega
  simp only [Sha256.update, Sha256.total, if_neg some, if_neg part, taken, List.take_length, open',
    positive, ne_eq, not_false_eq_true, and_false, and_self, if_pos, if_neg]

/-- An update feeds its bytes one by one (source `Sha256::update`). -/
lemma fed_update (short : hasher.buffer.length < 64) :
    (hasher.update bytes).fed = bytes.foldl (feed HashValue.absorb 64) hasher.fed := by
  by_cases none : bytes = []
  · rw [Sha256.update, if_pos none, none, List.foldl_nil]
  by_cases empty : hasher.buffer = []
  · rw [update_start none empty, Sha256.fed, Sha256.fed, empty, ← fed_update_whole]
  by_cases full : 64 ≤ hasher.buffer.length + bytes.length
  · have taken : (bytes.take (64 - hasher.buffer.length)).length = 64 - hasher.buffer.length := by
      rw [List.length_take]
      omega
    have some : bytes.take (64 - hasher.buffer.length) ≠ [] := by
      refine List.ne_nil_of_length_pos ?_
      omega
    have block : (hasher.buffer ++ bytes.take (64 - hasher.buffer.length)).length = 64 := by
      rw [List.length_append]
      omega
    conv_rhs => rw [← List.take_append_drop (64 - hasher.buffer.length) bytes]
    rw [update_fill empty short full, Sha256.fed, Sha256.fed, List.foldl_append,
      foldl_feed_full some (by omega), ← value_compress block, ← fed_update_whole]
  · rw [update_keep none empty (by omega), Sha256.fed, Sha256.fed, foldl_feed_short (by omega)]

/-- An update counts its bytes (source `Sha256::update`). -/
lemma totalBytes_update :
    (hasher.update bytes).totalBytes = hasher.total bytes := by
  by_cases none : bytes = []
  · rw [Sha256.update, if_pos none, none]
    exact (UInt64.add_zero _).symm
  · rw [Sha256.update, if_neg none]
    exact (apply_ite Sha256.totalBytes ..).trans (ite_self _)

/-- The buffer has room after an update (source `Sha256::update`). -/
lemma length_buffer_update (short : hasher.buffer.length < 64) :
    (hasher.update bytes).buffer.length = (hasher.buffer.length + bytes.length) % 64 := by
  have kept : (hasher.update bytes).buffer =
      (bytes.foldl (feed HashValue.absorb 64) hasher.fed).2 := congrArg Prod.snd (fed_update short)
  rw [kept, length_foldl_feed (by decide) short]
  rfl

/-- The loop of the padding adds the zeros up to the length field (source `Sha256::finish`). -/
lemma fed_padZeros (short : hasher.buffer.length < 64) {zeros : Nat} (less : zeros < 64)
    (fits : (hasher.buffer.length + zeros) % 64 = 56) (enough : zeros ≤ n) :
    (hasher.padZeros n).fed =
      (List.replicate zeros 0).foldl (feed HashValue.absorb 64) hasher.fed := by
  induction n generalizing hasher zeros with
  | zero =>
    rw [Nat.le_zero.1 enough]
    rfl
  | succ n ih =>
    rw [Sha256.padZeros]
    split
    · rename_i stop
      have none : zeros = 0 := by omega
      rw [none]
      rfl
    · rename_i more
      cases zeros with
      | zero => omega
      | succ zeros =>
        have length : (hasher.update [0]).buffer.length = (hasher.buffer.length + 1) % 64 :=
          length_buffer_update short
        have rest : ((hasher.update [0]).padZeros n).fed =
            (List.replicate zeros 0).foldl (feed HashValue.absorb 64) (hasher.update [0]).fed :=
          ih (by omega) (by omega) (by omega) (by omega)
        rw [rest, fed_update short, List.replicate_succ, List.foldl_cons, List.foldl_cons,
          List.foldl_nil]

/-- A byte of a number is a digit of it. -/
lemma toUInt8_shiftRight {v : UInt64} {k : Nat} (less : k < 64) :
    (v >>> UInt64.ofNat k).toUInt8 = UInt8.ofNat (v.toNat / 2 ^ k % 256) := by
  have shift : (UInt64.ofNat k).toNat = k :=
    UInt64.toNat_ofNat_of_lt' (Nat.lt_trans less (by decide))
  refine UInt8.toNat_inj.1 ?_
  rw [UInt64.toNat_toUInt8, UInt64.toNat_shiftRight, shift, Nat.mod_eq_of_lt less,
    Nat.shiftRight_eq_div_pow, UInt8.toNat_ofNat', Nat.mod_mod]

/-- The bytes of the bit length (source `Sha256::finish`, `length_bytes`). -/
lemma lengthBytes_eq {v : UInt64} : lengthBytes v = bigEndian 8 v.toNat := by
  have digits : lengthBytes v = ([56, 48, 40, 32, 24, 16, 8, 0] : List Nat).map fun k =>
      (v >>> UInt64.ofNat k).toUInt8 := rfl
  have each : ∀ k ∈ ([56, 48, 40, 32, 24, 16, 8, 0] : List Nat),
      (v >>> UInt64.ofNat k).toUInt8 = UInt8.ofNat (v.toNat / 2 ^ k % 256) := by
    intro k member
    exact toUInt8_shiftRight (by revert k; decide)
  rw [digits, List.map_congr_left each]
  simp only [bigEndian, littleEndian, Nat.div_div_eq_div_mul]
  simp

/-- The bytes of a word (source `Sha256::finish`). -/
lemma wordBytes_eq {w : UInt32} : (wordBytes w).toList = bigEndian 4 w.toBitVec.toNat := by
  have digit (k : Nat) (less : k < 32) :
      (w >>> UInt32.ofNat k).toUInt8 = UInt8.ofNat (w.toNat / 2 ^ k % 256) := by
    have shift : (UInt32.ofNat k).toNat = k :=
      UInt32.toNat_ofNat_of_lt' (Nat.lt_trans less (by decide))
    refine UInt8.toNat_inj.1 ?_
    rw [UInt32.toNat_toUInt8, UInt32.toNat_shiftRight, shift, Nat.mod_eq_of_lt less,
      Nat.shiftRight_eq_div_pow, UInt8.toNat_ofNat', Nat.mod_mod]
  have last : w.toUInt8 = UInt8.ofNat (w.toNat % 256) := by
    refine UInt8.toNat_inj.1 ?_
    rw [UInt32.toNat_toUInt8, UInt8.toNat_ofNat', Nat.mod_mod]
  have digits : (wordBytes w).toList = [(w >>> UInt32.ofNat 24).toUInt8,
    (w >>> UInt32.ofNat 16).toUInt8, (w >>> UInt32.ofNat 8).toUInt8, w.toUInt8] := rfl
  rw [digits, digit 24 (by decide), digit 16 (by decide), digit 8 (by decide), last]
  simp only [bigEndian, littleEndian, Nat.div_div_eq_div_mul]
  rfl

end Updates

section Streams

/-- Updates feed the bytes of their pieces one by one (source `Sha256::update`). -/
lemma fed_updates {hasher : Sha256} (short : hasher.buffer.length < 64) (pieces : List Bytes) :
    (pieces.foldl Sha256.update hasher).fed =
        pieces.flatten.foldl (feed HashValue.absorb 64) hasher.fed ∧
      (pieces.foldl Sha256.update hasher).buffer.length =
        (hasher.buffer.length + pieces.flatten.length) % 64 ∧
      (pieces.foldl Sha256.update hasher).totalBytes =
        hasher.totalBytes + UInt64.ofNat pieces.flatten.length := by
  induction pieces generalizing hasher with
  | nil =>
    refine ⟨rfl, ?_, (UInt64.add_zero _).symm⟩
    rw [List.flatten_nil, List.length_nil, Nat.add_zero, Nat.mod_eq_of_lt short]
    rfl
  | cons piece rest ih =>
    have length : (hasher.update piece).buffer.length =
        (hasher.buffer.length + piece.length) % 64 := length_buffer_update short
    have room : (hasher.update piece).buffer.length < 64 := by omega
    obtain ⟨fed, left, counted⟩ := ih room
    refine ⟨?_, ?_, ?_⟩
    · rw [List.foldl_cons, fed, fed_update short, List.flatten_cons, List.foldl_append]
    · rw [List.foldl_cons, left, length, List.flatten_cons, List.length_append]
      omega
    · rw [List.foldl_cons, counted, totalBytes_update, Sha256.total, List.flatten_cons,
        List.length_append, UInt64.ofNat_add, UInt64.add_assoc]

/-- A digest is the bytes of the chaining words (source `Sha256::finish`). -/
lemma bytes_finish {hasher : Sha256} :
    hasher.finish.bytes.toList = (((hasher.update [0x80]).padZeros 64).update
      (lengthBytes (hasher.totalBytes * 8))).state.value.bytes := by
  simp only [Sha256.finish, Vector.toList_cast, Vector.toList_append, wordBytes_eq,
    HashValue.bytes, List.flatMap_cons, List.flatMap_nil, List.append_nil, List.append_assoc]
  rfl

/-- However a message of fewer than 2^61 bytes is cut into updates, the digest is its SHA-256, and the
loop of the padding stops at the length field (source `Sha256::update`, `Sha256::finish`). -/
theorem finish_updates (pieces : List Bytes) (small : pieces.flatten.length < 2 ^ 61) :
    (pieces.foldl Sha256.update .new).finish.bytes.toList = secureHash pieces.flatten ∧
      (((pieces.foldl Sha256.update .new).update [0x80]).padZeros 64).buffer.length = 56 := by
  obtain ⟨fed, left, counted⟩ := @fed_updates .new (by decide) pieces
  generalize pieces.foldl Sha256.update .new = hasher at *
  generalize pieces.flatten = message at *
  replace left : hasher.buffer.length = message.length % 64 :=
    left.trans (congrArg (· % 64) (Nat.zero_add _))
  have bits : (hasher.totalBytes * 8).toNat = 8 * message.length := by
    have count : hasher.totalBytes = UInt64.ofNat message.length :=
      counted.trans (UInt64.zero_add _)
    have fits : message.length < 2 ^ 64 := Nat.lt_trans small (by decide)
    have eight : (8 : UInt64).toNat = 8 := rfl
    rw [count, UInt64.toNat_mul, UInt64.toNat_ofNat_of_lt' fits, eight, Nat.mul_comm]
    exact Nat.mod_eq_of_lt (by omega)
  have marked : (hasher.update [0x80]).buffer.length = (hasher.buffer.length + 1) % 64 :=
    length_buffer_update (by omega)
  have zeros : ((hasher.update [0x80]).padZeros 64).fed =
      (List.replicate ((119 - message.length % 64) % 64) 0).foldl (feed HashValue.absorb 64)
        (hasher.update [0x80]).fed :=
    fed_padZeros (by omega) (by omega) (by omega) (by omega)
  have stopped : ((hasher.update [0x80]).padZeros 64).buffer.length = 56 := by
    have buffer : ((hasher.update [0x80]).padZeros 64).buffer = _ := congrArg Prod.snd zeros
    have room : (hasher.update [0x80]).fed.2.length < 64 := by
      change (hasher.update [0x80]).buffer.length < 64
      omega
    rw [buffer, length_foldl_feed (by decide) room, List.length_replicate]
    change ((hasher.update [0x80]).buffer.length + _) % 64 = 56
    omega
  refine ⟨?_, stopped⟩
  have final : (((hasher.update [0x80]).padZeros 64).update
      (lengthBytes (hasher.totalBytes * 8))).state.value = _ :=
    congrArg Prod.fst (fed_update (by omega))
  rw [bytes_finish, final, zeros, fed_update (by omega), fed, lengthBytes_eq, bits,
    ← List.foldl_append, ← List.foldl_append, ← List.foldl_append, secureHash_eq_feed, padding,
    ← value_new]
  rfl

/-- The digest of a text in two pieces. -/
theorem finish_updates_abc :
    ([text "a", [], text "bc"].foldl Sha256.update .new).finish.bytes.toList =
      secureHash (text "abc") :=
  (finish_updates [text "a", [], text "bc"] (by decide)).1

end Streams

end TransceiverRegistry
