import TransceiverRegistry.Canonical.RoundTrip

/-!
# Every value has one encoding

The inverse of the round trip: whatever bytes the reader accepts are the bytes the writer writes for
the value it returns. Each reader of a primitive is inverted by itself; the induction follows the
levels of nesting, and the loops over elements and members their counts.
-/

namespace TransceiverRegistry

open Lib CanonicalWriter

section Varint

/-- A group is below 128 (source `append_varint`). -/
lemma group_toNat_lt (byte : UInt8) : (byte &&& 0x7f).toNat < 128 := by
  have all : ∀ b : UInt8, (b &&& 0x7f).toNat < 128 := forall_uint8 (by decide +kernel)
  exact all byte

/-- A byte without the continuation bit is its group (source `CanonicalReader::read_varint`). -/
lemma byte_of_last {byte : UInt8} (last : byte &&& 0x80 = 0) : byte &&& 0x7f = byte := by
  have all : ∀ b : UInt8, b &&& 0x80 = 0 → b &&& 0x7f = b := forall_uint8 (by decide +kernel)
  exact all byte last

/-- Bytes with the continuation bit and the same group are the same
(source `CanonicalReader::read_varint`). -/
lemma byte_of_more {byte byte' : UInt8} (more : byte &&& 0x80 ≠ 0) (more' : byte' &&& 0x80 ≠ 0)
    (same : (byte &&& 0x7f).toNat = (byte' &&& 0x7f).toNat) : byte = byte' := by
  have all : ∀ b : UInt8, b &&& 0x80 ≠ 0 → b = (b &&& 0x7f) ||| 0x80 :=
    forall_uint8 (by decide +kernel)
  rw [all byte more, all byte' more', UInt8.toNat_inj.1 same]

/-- The last byte of ten carries one bit (source `CanonicalReader::read_varint`). -/
lemma group_toNat_lt_two {byte : UInt8} (fits : byte &&& 0x7e = 0) : (byte &&& 0x7f).toNat < 2 := by
  have all : ∀ b : UInt8, b &&& 0x7e = 0 → (b &&& 0x7f).toNat < 2 :=
    forall_uint8 (by decide +kernel)
  exact all byte fits

/-- A number below 128 is written as one byte (source `append_varint`). -/
lemma varintBytes_small (n : Nat) {value : UInt64} (small : value.toNat < 128) :
    varintBytes n value = [value.toUInt8] := by
  cases n with
  | zero => rfl
  | succ n => exact if_neg (Nat.not_le.2 small)

/-- A number from 128 on is written as a group and the rest (source `append_varint`). -/
lemma varintBytes_large (n : Nat) {value : UInt64} (large : 128 ≤ value.toNat) :
    varintBytes (n + 1) value =
      ((value &&& 0x7f) ||| 0x80).toUInt8 :: varintBytes n (value >>> 7) := if_pos large

/-- The groups up to the `used`-th one stay in their range (source `append_varint`). -/
lemma groups_lt {acc : UInt64} {byte : UInt8} {used : Nat} (below : acc.toNat < 2 ^ (7 * used)) :
    acc.toNat + (byte &&& 0x7f).toNat * 2 ^ (7 * used) < 2 ^ (7 * (used + 1)) :=
  calc acc.toNat + (byte &&& 0x7f).toNat * 2 ^ (7 * used)
      < 2 ^ (7 * used) + (byte &&& 0x7f).toNat * 2 ^ (7 * used) := Nat.add_lt_add_right below _
    _ = ((byte &&& 0x7f).toNat + 1) * 2 ^ (7 * used) := by
      rw [Nat.add_mul, Nat.one_mul, Nat.add_comm]
    _ ≤ 128 * 2 ^ (7 * used) := Nat.mul_le_mul_right _ (group_toNat_lt byte)
    _ = 2 ^ (7 * (used + 1)) := by rw [Nat.mul_add, Nat.pow_add, Nat.mul_comm]

/-- The value of a varint with one more group (source `CanonicalReader::read_varint`). -/
lemma accumulate_add {acc : UInt64} {byte : UInt8} {used : Nat} (small : used ≤ 9)
    (below : acc.toNat < 2 ^ (7 * used))
    (fits : acc.toNat + (byte &&& 0x7f).toNat * 2 ^ (7 * used) < 2 ^ 64) :
    (acc ||| ((byte &&& 0x7f).toUInt64 <<< UInt64.ofNat (7 * used))).toNat =
      acc.toNat + (byte &&& 0x7f).toNat * 2 ^ (7 * used) := by
  have group := group_toNat_lt byte
  have word : (UInt64.ofNat (acc.toNat + (byte &&& 0x7f).toNat * 2 ^ (7 * used))).toNat =
      acc.toNat + (byte &&& 0x7f).toNat * 2 ^ (7 * used) := by
    rw [UInt64.toNat_ofNat', Nat.mod_eq_of_lt fits]
  have low : acc.toNat =
      (acc.toNat + (byte &&& 0x7f).toNat * 2 ^ (7 * used)) % 2 ^ (7 * used) := by
    rw [Nat.add_mul_mod_self_right, Nat.mod_eq_of_lt below]
  have next : (byte &&& 0x7f).toNat =
      (acc.toNat + (byte &&& 0x7f).toNat * 2 ^ (7 * used)) / 2 ^ (7 * used) % 128 := by
    rw [Nat.add_mul_div_right _ _ (Nat.two_pow_pos _), Nat.div_eq_of_lt below, Nat.zero_add,
      Nat.mod_eq_of_lt group]
  rw [← word] at low next
  rw [accumulate_toNat byte small low next, word,
    Nat.mod_eq_of_lt (groups_lt below)]

/-- Inverting the loop of the varint reader: what was read from the `used`-th group on is what the
writer writes for the high part of the value, when the last group is not a needless zero
(source `CanonicalReader::read_varint`). -/
lemma readVarintFrom_inv {bytes rest : Bytes} {acc v : UInt64} {used k : Nat}
    (small : used ≤ 9) (below : acc.toNat < 2 ^ (7 * used))
    (h : readVarintFrom acc used bytes = .ok (v, k, rest)) :
    v.toNat % 2 ^ (7 * used) = acc.toNat ∧ used < k ∧ k ≤ 10 ∧
      ∀ high : UInt64, high.toNat = v.toNat / 2 ^ (7 * used) →
        (k = used + 1 ∨ v.toNat / 2 ^ (7 * (k - 1)) ≠ 0) →
        bytes = varintBytes (9 - used) high ++ rest := by
  induction bytes generalizing acc used with
  | nil => cases h
  | cons byte bytes ih =>
    have narrow := group_toNat_lt byte
    simp only [readVarintFrom] at h
    split at h
    · cases h
    split at h
    · cases h
    rename_i short fits
    have room : acc.toNat + (byte &&& 0x7f).toNat * 2 ^ (7 * used) < 2 ^ 64 := by
      by_cases tenth : used = 9
      · -- the tenth byte carries the last bit only
        subst tenth
        have := group_toNat_lt_two (not_not.1 fun wide => fits ⟨rfl, wide⟩)
        omega
      · have wide : 2 ^ (7 * (used + 1)) ≤ 2 ^ 63 := Nat.pow_le_pow_right (by decide) (by omega)
        exact Nat.lt_of_lt_of_le (groups_lt below) (wide.trans (by decide))
    have value := accumulate_add small below room
    have low : (acc.toNat + (byte &&& 0x7f).toNat * 2 ^ (7 * used)) % 2 ^ (7 * used) =
        acc.toNat := by
      rw [Nat.add_mul_mod_self_right, Nat.mod_eq_of_lt below]
    have next : (acc.toNat + (byte &&& 0x7f).toNat * 2 ^ (7 * used)) / 2 ^ (7 * used) =
        (byte &&& 0x7f).toNat := by
      rw [Nat.add_mul_div_right _ _ (Nat.two_pow_pos _), Nat.div_eq_of_lt below, Nat.zero_add]
    split at h
    · rename_i last
      cases h
      rw [value]
      refine ⟨low, Nat.lt_succ_self _, by omega, fun high top _ => ?_⟩
      rw [next, byte_of_last last] at top
      have single : high.toUInt8 = byte := by
        rw [← UInt8.toNat_inj, UInt64.toNat_toUInt8, top]
        exact Nat.mod_eq_of_lt byte.toNat_lt
      rw [varintBytes_small _ (by rw [top, ← byte_of_last last]; exact narrow), single,
        List.singleton_append]
    · rename_i more
      split at h
      · cases h
      rename_i few
      obtain ⟨part, longer, most, others⟩ := ih (by omega) (by rw [value]; exact groups_lt below) h
      have widen : 2 ^ (7 * (used + 1)) = 2 ^ (7 * used) * 128 := by
        rw [Nat.mul_add, Nat.pow_add]
      rw [value] at part
      refine ⟨?_, by omega, most, fun high top minimal => ?_⟩
      · rw [← low, ← part, widen, Nat.mod_mul_right_mod]
      · have group : high.toNat % 128 = (byte &&& 0x7f).toNat := by
          rw [top, ← Nat.mod_mul_right_div_self, ← widen, part, next]
        have above : high.toNat / 128 = v.toNat / 2 ^ (7 * (used + 1)) := by
          rw [top, widen, Nat.div_div_eq_div_mul]
        have nonzero : v.toNat / 2 ^ (7 * (k - 1)) ≠ 0 := minimal.resolve_left (by omega)
        have large : high.toNat / 128 ≠ 0 := by
          rw [above]
          intro zero
          have fewer : 2 ^ (7 * (used + 1)) ≤ 2 ^ (7 * (k - 1)) :=
            Nat.pow_le_pow_right (by decide) (by omega)
          rw [Nat.div_eq_zero_iff_lt (Nat.two_pow_pos _)] at zero
          exact nonzero (Nat.div_eq_of_lt (zero.trans_le fewer))
        have shifted : (high >>> 7).toNat = v.toNat / 2 ^ (7 * (used + 1)) := by
          rw [← above, UInt64.toNat_shiftRight]
          exact Nat.shiftRight_eq_div_pow _ 7
        obtain ⟨same, more'⟩ := groupByte_toNat high
        have left : 9 - used = 9 - (used + 1) + 1 := by omega
        rw [left, varintBytes_large _ (by omega), List.cons_append,
          ← others _ shifted (.inr nonzero), byte_of_more more more' (by rw [same, group])]

/-- A number that is read was written (source `CanonicalReader::read_varint`). -/
lemma readVarint_inv {bytes rest : Bytes} {v : UInt64} (h : readVarint bytes = .ok (v, rest)) :
    bytes = varint v ++ rest := by
  simp only [readVarint, bind_eq_ok, refuseIf_eq_ok] at h
  obtain ⟨⟨v, k, rest⟩, read, _, minimal, e⟩ := h
  cases e
  obtain ⟨_, some_read, most, all⟩ : _ ∧ 0 < k ∧ k ≤ 10 ∧ _ :=
    readVarintFrom_inv (Nat.zero_le 9) (by decide) read
  refine all v (by simp) ?_
  by_cases single : k = 1
  · exact .inl single
  · right
    intro zero
    have shift : (UInt64.ofNat (7 * (k - 1))).toNat % 64 = 7 * (k - 1) := by
      rw [UInt64.toNat_ofNat']
      omega
    have long : 1 < k := by omega
    refine minimal ⟨long, UInt64.toNat_inj.1 ?_⟩
    rw [UInt64.toNat_shiftRight, shift, Nat.shiftRight_eq_div_pow]
    exact zero

/-- Interleaving a decoded number gives the word back (source `zigzag_encode`). -/
lemma zigzagEncode_zigzagDecode (word : UInt64) : zigzagEncode (zigzagDecode word) = word := by
  have decoded : (zigzagDecode word).toBitVec =
      (word.toBitVec >>> 1) ^^^ (~~~(word.toBitVec &&& 1#64) + 1#64) := by simp [zigzagDecode]
  have encoded : (zigzagEncode (zigzagDecode word)).toBitVec =
      ((zigzagDecode word).toBitVec <<< 1) ^^^ ((zigzagDecode word).toBitVec.sshiftRight 63) := by
    simp [zigzagEncode]
  have sign : (zigzagDecode word).toBitVec.msb = word.toBitVec.getLsbD 0 := by
    rw [BitVec.msb_eq_getLsbD_last, decoded, BitVec.getLsbD_xor, getLsbD_lowFill _ (by decide)]
    simp
  apply UInt64.toBitVec_inj.1
  rw [encoded]
  apply BitVec.eq_of_getLsbD_eq
  intro i hi
  rw [BitVec.getLsbD_xor, getLsbD_signFill _ hi, sign, BitVec.getLsbD_shiftLeft]
  cases i with
  | zero => simp
  | succ i =>
    have inside : i < 64 := by omega
    rw [decoded, BitVec.getLsbD_xor, getLsbD_lowFill _ (by omega)]
    simp [hi, inside, Nat.add_comm]

end Varint

section Inversion

variable {lim : CanonicalLimits} {size : Nat}

/-- A length that is read was written (source `CanonicalReader::read_length`). -/
lemma readLength_inv {bytes rest : Bytes} {limit : UInt64} {what : String} {length : Nat}
    (h : readLength bytes limit what = .ok (length, rest)) :
    bytes = varint (UInt64.ofNat length) ++ rest := by
  simp only [readLength, bind_eq_ok] at h
  obtain ⟨⟨value, rest⟩, read, _, _, e⟩ := h
  cases e
  rw [UInt64.ofNat_toNat]
  exact readVarint_inv read

/-- The bytes that are read come first (source `CanonicalReader::read_bytes_exact`). -/
lemma readBytesExact_inv {bytes raw rest : Bytes} {count : Nat}
    (h : readBytesExact bytes count = .ok (raw, rest)) :
    bytes = raw ++ rest ∧ raw.length = count := by
  simp only [readBytesExact, bind_eq_ok, refuseIf_eq_ok, Nat.not_lt] at h
  obtain ⟨_, enough, e⟩ := h
  cases e
  exact ⟨(List.take_append_drop _ _).symm, by rw [List.length_take, Nat.min_eq_left enough]⟩

/-- A text that is read was written (source `CanonicalReader::read_value_at_depth`). -/
lemma readText_inv {what : String} {bytes t rest : Bytes}
    (h : readText lim what bytes = .ok (t, rest)) :
    bytes = varint (UInt64.ofNat t.length) ++ t ++ rest ∧ isValidUtf8 t = true := by
  simp only [readText, bind_eq_ok, refuseIf_eq_ok, Bool.not_eq_false] at h
  obtain ⟨⟨length, after⟩, counted, ⟨raw, rest⟩, exact, _, valid, e⟩ := h
  cases e
  obtain ⟨rfl, rfl⟩ := readBytesExact_inv exact
  rw [List.append_assoc]
  exact ⟨readLength_inv counted, valid⟩

/-- A tag that is read comes first (source `CanonicalReader::read_tag`). -/
lemma readTag_inv {bytes rest : Bytes} {tag : UInt8}
    (h : readTag lim size bytes = .ok (tag, rest)) : bytes = tag :: rest := by
  simp only [readTag, bind_eq_ok] at h
  obtain ⟨_, _, found⟩ := h
  cases bytes with
  | nil => cases found
  | cons _ _ =>
    cases found
    rfl

/-- Counting a node leaves the bytes (source `++nodes_`). -/
lemma countNode_inv {c c' : Cursor} (h : countNode lim c = .ok c') : c'.rest = c.rest := by
  simp only [countNode, bind_eq_ok] at h
  obtain ⟨_, _, e⟩ := h
  cases e
  rfl

/-- What a writer wrote between two positions of the reader, without a failure. -/
def Wrote (w : CanonicalWriter) (before after : Cursor) : Prop :=
  before.rest = w.bytes ++ after.rest ∧ w.failed = false

/-- What was written on the way is written by one writer after the other. -/
lemma Wrote.andThen {w u : CanonicalWriter} {c c' c'' : Cursor} (first : Wrote w c c')
    (later : Wrote u c' c'') : Wrote (w.andThen u) c c'' := by
  refine ⟨?_, ?_⟩
  · rw [first.1, later.1, CanonicalWriter.andThen, List.append_assoc]
  · rw [CanonicalWriter.andThen, first.2, later.2]
    rfl

/-- A key that is read was written, and comes after the previous one
(source `CanonicalReader::read_value_at_depth`, the head of the object loop). -/
lemma readKey_inv {previous : Option Bytes} {key : Bytes} {c c' : Cursor}
    (h : readKey lim size previous c = .ok (key, c')) :
    Wrote (new.field key) c c' ∧ key ≠ [] ∧
      ∀ p, previous = some p → (compareBytes p key).isLT = true := by
  simp only [readKey, bind_eq_ok, refuseIf_eq_ok, not_not] at h
  obtain ⟨counted, count, ⟨tag, after⟩, tagged, _, rfl, ⟨key, rest⟩, text, _, named, _, later,
    e⟩ := h
  cases e
  obtain ⟨written, valid⟩ := readText_inv text
  have front : c.rest = 5 :: (varint (UInt64.ofNat key.length) ++ key ++ rest) := by
    rw [← countNode_inv count, readTag_inv tagged, ← written]
  refine ⟨?_, named, fun p hp => ?_⟩
  · simp only [Wrote, field, named, if_false, CanonicalWriter.text, valid, if_true, append, new,
      List.nil_append, front, List.cons_append, and_self]
  · subst hp
    rw [Option.any_some, Bool.not_eq_true, Ordering.isGE_eq_false] at later
    exact Ordering.isLT_iff_eq_lt.2 later

/-- The values a reader returns were written between its positions. -/
def ReadsWritten (read : Cursor → Result (Value × Cursor)) : Prop :=
  ∀ c v c', read c = .ok (v, c') → Wrote (new.writeValue v) c c'

variable {read : Cursor → Result (Value × Cursor)}

/-- Elements that are read were written (source `CanonicalReader::read_value_at_depth`, the array
loop). -/
lemma readElements_inv (all : ReadsWritten read) {count : Nat} {c c' : Cursor} {es : List Value}
    (h : readElements read count c = .ok (es, c')) :
    es.length = count ∧ Wrote (new.writeElements es) c c' := by
  induction count generalizing c es with
  | zero =>
    cases h
    exact ⟨rfl, rfl, rfl⟩
  | succ count ih =>
    simp only [readElements, bind_eq_ok] at h
    obtain ⟨⟨e, after⟩, first, ⟨rest, last⟩, later, e⟩ := h
    cases e
    obtain ⟨length, written⟩ := ih later
    refine ⟨by rw [List.length_cons, length], ?_⟩
    rw [writeElements, writeElements_eq]
    exact (all _ _ _ first).andThen written

/-- The keys read so far are at most the previous key. -/
def UpTo (previous : Option Bytes) (done : List (Bytes × Value)) : Prop :=
  ∀ m ∈ done, ∃ p, previous = some p ∧ (compareBytes m.1 p).isLE = true

/-- Reading a member adds it after the members `done`, with the largest key
(source `CanonicalReader::read_value_at_depth`, the object loop). -/
lemma readMembers_step {count : Nat} {previous : Option Bytes} {done : List (Bytes × Value)}
    {c c' : Cursor} {v : Value} (upTo : UpTo previous done)
    (h : readMembers lim size read (count + 1) previous (.members done) c = .ok (v, c')) :
    ∃ key value afterKey afterValue, readKey lim size previous c = .ok (key, afterKey) ∧
      read afterKey = .ok (value, afterValue) ∧
      (∀ m ∈ done, (compareBytes m.1 key).isLT = true) ∧
      UpTo (some key) (done ++ [(key, value)]) ∧
      readMembers lim size read count (some key) (.members (done ++ [(key, value)])) afterValue =
        .ok (v, c') := by
  simp only [readMembers, bind_eq_ok] at h
  obtain ⟨⟨key, afterKey⟩, named, ⟨value, afterValue⟩, valued, object, added, later⟩ := h
  obtain ⟨_, key_ne, after⟩ := readKey_inv named
  -- the keys before are at most the previous one, which is below this one
  have below : ∀ m ∈ done, (compareBytes m.1 key).isLT = true := by
    intro m hm
    obtain ⟨p, hp, le⟩ := upTo m hm
    exact Ordering.isLT_iff_eq_lt.2
      (Std.TransCmp.lt_of_isLE_of_lt le (Ordering.isLT_iff_eq_lt.1 (after p hp)))
  rw [setUnique_append key_ne below] at added
  cases added
  refine ⟨key, value, afterKey, afterValue, named, valued, below, fun m hm => ⟨key, rfl, ?_⟩, later⟩
  cases List.mem_append.1 hm with
  | inl old => exact Ordering.isLE_of_eq_lt (Ordering.isLT_iff_eq_lt.1 (below m old))
  | inr newest =>
    rw [List.mem_singleton.1 newest]
    exact Std.ReflCmp.isLE_rfl

/-- Members that are read were written after the members `done`
(source `CanonicalReader::read_value_at_depth`, the object loop). -/
lemma readMembers_inv (all : ReadsWritten read) {count : Nat} {previous : Option Bytes}
    {done : List (Bytes × Value)} {c c' : Cursor} {v : Value} (upTo : UpTo previous done)
    (h : readMembers lim size read count previous (.members done) c = .ok (v, c')) :
    ∃ ms, v = .members (done ++ ms) ∧ ms.length = count ∧ Wrote (new.writeMembers ms) c c' := by
  induction count generalizing previous done c with
  | zero =>
    cases h
    exact ⟨[], by rw [List.append_nil], rfl, rfl, rfl⟩
  | succ count ih =>
    obtain ⟨key, value, afterKey, afterValue, named, valued, _, upTo', later⟩ :=
      readMembers_step upTo h
    obtain ⟨ms, rfl, length, written⟩ := ih upTo' later
    refine ⟨(key, value) :: ms, by rw [List.append_assoc]; rfl, by rw [List.length_cons, length],
      ?_⟩
    rw [writeMembers, writeMembers_eq, writeValue_eq]
    exact ((readKey_inv named).1.andThen (all _ _ _ valued)).andThen written

/-- What can be read after a tag, one case for each tag
(source `CanonicalReader::read_value_at_depth`, the switch). -/
inductive Tagged (lim : CanonicalLimits) (size : Nat) (read : Cursor → Result (Value × Cursor))
    (c : Cursor) : UInt8 → Value → Cursor → Prop where
  | null : Tagged lim size read c 0 .null c
  | no : Tagged lim size read c 1 (.boolean false) c
  | yes : Tagged lim size read c 2 (.boolean true) c
  | integer {raw rest} :
    readVarint c.rest = .ok (raw, rest) →
    Tagged lim size read c 3 (.integer (zigzagDecode raw)) { c with rest := rest }
  | unsigned {raw rest} :
    readVarint c.rest = .ok (raw, rest) →
    Tagged lim size read c 9 (.unsigned raw) { c with rest := rest }
  | real :
    8 ≤ c.rest.length →
    Binary64.isNaN ⟨UInt64.ofNat (ofLittleEndian (c.rest.take 8))⟩ = false →
    Tagged lim size read c 4 (.real ⟨UInt64.ofNat (ofLittleEndian (c.rest.take 8))⟩)
      { c with rest := c.rest.drop 8 }
  | text {t rest} :
    readText lim "canonical text" c.rest = .ok (t, rest) →
    Tagged lim size read c 5 (.text t) { c with rest := rest }
  | binary {length raw after rest} :
    readLength c.rest lim.maxBinaryBytes "canonical binary" = .ok (length, after) →
    readBytesExact after length = .ok (raw, rest) →
    Tagged lim size read c 6 (.binary raw) { c with rest := rest }
  | array {count es after c'} :
    readLength c.rest lim.maxElements "canonical array" = .ok (count, after) →
    readElements read count { c with rest := after } = .ok (es, c') →
    Tagged lim size read c 7 (.array es) c'
  | members {count v after c'} :
    readLength c.rest lim.maxObjectFields "canonical object" = .ok (count, after) →
    readMembers lim size read count none (.members []) { c with rest := after } = .ok (v, c') →
    Tagged lim size read c 8 v c'

/-- Inverting the switch over the tags (source `CanonicalReader::read_value_at_depth`). -/
lemma readTagged_inv {tag : UInt8} {c c' : Cursor} {v : Value}
    (h : readTagged lim size read tag c = .ok (v, c')) : Tagged lim size read c tag v c' := by
  by_cases integer : tag = 3
  · subst integer
    change (readVarint _ >>= _) = _ at h
    obtain ⟨_, number, e⟩ := bind_eq_ok.1 h
    cases e
    exact .integer number
  by_cases unsigned : tag = 9
  · subst unsigned
    change (readVarint _ >>= _) = _ at h
    obtain ⟨_, number, e⟩ := bind_eq_ok.1 h
    cases e
    exact .unsigned number
  by_cases real : tag = 4
  · subst real
    change (refuseIf _ _ >>= fun _ => refuseIf _ _ >>= _) = _ at h
    obtain ⟨enough, h⟩ := refuseIf_bind_eq_ok.1 h
    obtain ⟨number, e⟩ := refuseIf_bind_eq_ok.1 h
    cases e
    exact .real (Nat.not_lt.1 enough) (Bool.not_eq_true _ ▸ number)
  by_cases text : tag = 5
  · subst text
    change (readText _ _ _ >>= _) = _ at h
    obtain ⟨_, read, e⟩ := bind_eq_ok.1 h
    cases e
    exact .text read
  by_cases binary : tag = 6
  · subst binary
    change (readLength _ _ _ >>= _) = _ at h
    obtain ⟨_, counted, h⟩ := bind_eq_ok.1 h
    obtain ⟨_, exact, e⟩ := bind_eq_ok.1 h
    cases e
    exact .binary counted exact
  by_cases array : tag = 7
  · subst array
    change (readLength _ _ _ >>= _) = _ at h
    obtain ⟨_, counted, h⟩ := bind_eq_ok.1 h
    obtain ⟨_, all, e⟩ := bind_eq_ok.1 h
    cases e
    exact .array counted all
  by_cases object : tag = 8
  · subst object
    change (readLength _ _ _ >>= _) = _ at h
    obtain ⟨_, counted, members⟩ := bind_eq_ok.1 h
    exact .members counted members
  -- the other tags stand for a value by themselves
  simp only [readTagged, integer, unsigned, real, text, binary, array, object, if_false] at h
  split_ifs at h with null no yes
  · cases h
    exact null ▸ .null
  · cases h
    exact no ▸ .no
  · cases h
    exact yes ▸ .yes

/-- What is read after a tag was written with it
(source `CanonicalReader::read_value_at_depth`, the switch). -/
lemma Tagged.written (all : ReadsWritten read) {tag : UInt8} {c c' : Cursor} {v : Value}
    (h : Tagged lim size read c tag v c') :
    tag :: c.rest = (new.writeValue v).bytes ++ c'.rest ∧ (new.writeValue v).failed = false := by
  cases h with
  | null | no | yes => exact ⟨rfl, rfl⟩
  | integer number =>
    rw [readVarint_inv number, writeValue, CanonicalWriter.integer, zigzagEncode_zigzagDecode]
    exact ⟨rfl, rfl⟩
  | unsigned number =>
    rw [readVarint_inv number]
    exact ⟨rfl, rfl⟩
  | real enough number =>
    have eight : (c.rest.take 8).length = 8 := by rw [List.length_take, Nat.min_eq_left enough]
    have fits : ofLittleEndian (c.rest.take 8) < 2 ^ 64 := by
      have := ofLittleEndian_lt (c.rest.take 8)
      rwa [eight] at this
    have word : littleEndian 8 (UInt64.ofNat (ofLittleEndian (c.rest.take 8))).toNat =
        c.rest.take 8 := by
      have back := littleEndian_ofLittleEndian (c.rest.take 8)
      rw [eight] at back
      rw [UInt64.toNat_ofNat', Nat.mod_eq_of_lt fits, back]
    simp only [writeValue, CanonicalWriter.real, number, Bool.false_eq_true, if_false, append, new,
      List.nil_append, word, List.cons_append, List.take_append_drop, and_self]
  | text read =>
    obtain ⟨written, valid⟩ := readText_inv read
    simp only [writeValue, CanonicalWriter.text, valid, if_true, append, new, List.nil_append,
      List.cons_append, written, and_self]
  | binary counted exact =>
    obtain ⟨rfl, rfl⟩ := readBytesExact_inv exact
    rw [readLength_inv counted]
    refine ⟨?_, rfl⟩
    simp only [writeValue, CanonicalWriter.binary, append, new, List.nil_append, List.cons_append,
      List.append_assoc]
  | array counted elements =>
    obtain ⟨rfl, written, fine⟩ := readElements_inv all elements
    rw [readLength_inv counted, writeValue, writeElements_eq]
    refine ⟨?_, by rw [andThen, fine]; rfl⟩
    simp only [beginArray, andThen, append, new, List.nil_append, List.cons_append,
      List.append_assoc] at written ⊢
    rw [written]
  | members counted object =>
    obtain ⟨ms, rfl, rfl, written, fine⟩ := readMembers_inv all (by simp [UpTo]) object
    rw [List.nil_append, readLength_inv counted, writeValue, writeMembers_eq]
    refine ⟨?_, by rw [andThen, fine]; rfl⟩
    simp only [beginObject, andThen, append, new, List.nil_append, List.cons_append,
      List.append_assoc] at written ⊢
    rw [written]

/-- A value that is read was written (source `CanonicalReader::read_value_at_depth`). -/
lemma readValue_inv (levels : Nat) : ReadsWritten (readValue lim size levels) := by
  induction levels with
  | zero =>
    intro c v c' h
    cases h
  | succ levels ih =>
    intro c v c' h
    simp only [readValue, bind_eq_ok] at h
    obtain ⟨counted, count, ⟨tag, rest⟩, tagged, later⟩ := h
    obtain ⟨written, fine⟩ := (readTagged_inv later).written ih
    refine ⟨?_, fine⟩
    rw [← countNode_inv count, readTag_inv tagged]
    exact written

/-- The bytes of an accepted document are what the writer writes for its value
(source `CanonicalReader::read_document`). -/
lemma readDocument_inv {bytes : Bytes} {v : Value} (h : readDocument lim bytes = .ok v) :
    new.writeValue v = ⟨bytes, false⟩ := by
  simp only [readDocument, bind_eq_ok, refuseIf_eq_ok, not_not] at h
  obtain ⟨⟨v, c⟩, read, _, done, e⟩ := h
  cases e
  obtain ⟨written, fine⟩ := readValue_inv _ _ _ _ read
  have all : bytes = (new.writeValue v).bytes := by
    rw [← List.append_nil (new.writeValue v).bytes, ← done]
    exact written
  rw [all, ← fine]

end Inversion

end TransceiverRegistry
