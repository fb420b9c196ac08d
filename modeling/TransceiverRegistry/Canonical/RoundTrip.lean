import Mathlib.Data.List.TakeWhile
import TransceiverRegistry.Canonical.Reader

/-!
# Reading what was written

The reader gives back a value that was written, and the bytes after it, when the value is canonical
and within the limits of the reader. The induction follows the value; the fact about its leaves is
that each primitive encoding is read back from the front of any bytes.
-/

namespace TransceiverRegistry

open Lib

section Varint

/-- Adding the next seven bits of a number (source `CanonicalReader::read_varint`). -/
lemma accumulate_toNat {v acc : UInt64} (byte : UInt8) {used : Nat} (small : used ≤ 9)
    (low : acc.toNat = v.toNat % 2 ^ (7 * used))
    (next : (byte &&& 0x7f).toNat = v.toNat / 2 ^ (7 * used) % 128) :
    (acc ||| ((byte &&& 0x7f).toUInt64 <<< UInt64.ofNat (7 * used))).toNat =
      v.toNat % 2 ^ (7 * (used + 1)) := by
  have fits : v.toNat / 2 ^ (7 * used) % 128 * 2 ^ (7 * used) < 2 ^ 64 :=
    calc v.toNat / 2 ^ (7 * used) % 128 * 2 ^ (7 * used)
        ≤ v.toNat / 2 ^ (7 * used) * 2 ^ (7 * used) := Nat.mul_le_mul_right _ (Nat.mod_le _ _)
      _ ≤ v.toNat := Nat.div_mul_le_self _ _
      _ < 2 ^ 64 := v.toNat_lt
  have shift : (UInt64.ofNat (7 * used)).toNat % 64 = 7 * used := by
    rw [UInt64.toNat_ofNat']
    omega
  have group : ((byte &&& 0x7f).toUInt64 <<< UInt64.ofNat (7 * used)).toNat =
      2 ^ (7 * used) * (v.toNat / 2 ^ (7 * used) % 128) := by
    rw [UInt64.toNat_shiftLeft, shift, Nat.shiftLeft_eq, UInt8.toNat_toUInt64, next,
      Nat.mod_eq_of_lt fits, Nat.mul_comm]
  have below : acc.toNat < 2 ^ (7 * used) := low ▸ Nat.mod_lt _ (Nat.two_pow_pos _)
  have widen : 2 ^ (7 * (used + 1)) = 2 ^ (7 * used) * 128 := by
    rw [Nat.mul_add, Nat.pow_add]
  rw [UInt64.toNat_or, group, Nat.or_comm, ← Nat.two_pow_add_eq_or_of_lt below, low, widen,
    Nat.mod_mul, Nat.add_comm]

/-- A byte of a varint that is not the last one (source `append_varint`). -/
lemma groupByte_toNat (value : UInt64) :
    ((((value &&& 0x7f) ||| 0x80).toUInt8) &&& 0x7f).toNat = value.toNat % 128 ∧
      ((value &&& 0x7f) ||| 0x80).toUInt8 &&& 0x80 ≠ 0 := by
  have low : (value &&& 0x7f).toNat = value.toNat % 128 := by
    rw [UInt64.toNat_and]
    exact Nat.and_two_pow_sub_one_eq_mod value.toNat 7
  have narrow : ((value &&& 0x7f) ||| 0x80).toUInt8 = (value &&& 0x7f).toUInt8 ||| 0x80 := by
    simp
  have byte : (value &&& 0x7f).toUInt8.toNat = value.toNat % 128 := by
    rw [UInt64.toNat_toUInt8, low]
    omega
  have all : ∀ b : UInt8, b.toNat < 128 →
      ((b ||| 0x80) &&& 0x7f).toNat = b.toNat ∧ (b ||| 0x80) &&& 0x80 ≠ 0 :=
    forall_uint8 (by decide +kernel)
  have both := all (value &&& 0x7f).toUInt8 (by omega)
  rw [narrow, ← byte]
  exact both

/-- The last byte of a varint (source `append_varint`). -/
lemma lastByte_toNat {value : UInt64} (small : value.toNat < 128) :
    (value.toUInt8 &&& 0x7f).toNat = value.toNat ∧ value.toUInt8 &&& 0x80 = 0 := by
  have byte : value.toUInt8.toNat = value.toNat := by
    rw [UInt64.toNat_toUInt8]
    omega
  have all : ∀ b : UInt8, b.toNat < 128 → (b &&& 0x7f).toNat = b.toNat ∧ b &&& 0x80 = 0 :=
    forall_uint8 (by decide +kernel)
  have both := all value.toUInt8 (by omega)
  rw [byte] at both
  exact both

/-- Reading the groups of a number from the `used`-th on: the groups before it were read into
`acc`, the ones from it on were written (source `CanonicalReader::read_varint`). -/
lemma readVarintFrom_varintBytes {v : UInt64} (rest : Bytes) (n : Nat) :
    ∀ (used : Nat) (value acc : UInt64), used + n = 9 →
      value.toNat = v.toNat / 2 ^ (7 * used) → acc.toNat = v.toNat % 2 ^ (7 * used) →
      ∃ k, readVarintFrom acc used (varintBytes n value ++ rest) = .ok (v, k, rest) ∧
        used < k ∧ k ≤ 10 ∧ (value = 0 → k = used + 1) ∧
        (value ≠ 0 → v.toNat / 2 ^ (7 * (k - 1)) ≠ 0) := by
  induction n with
  | zero =>
    intro used value acc full high low
    obtain rfl : used = 9 := by omega
    have small : value.toNat < 2 := by
      have := v.toNat_lt
      omega
    obtain ⟨byte, last⟩ := lastByte_toNat (Nat.lt_trans small (by decide))
    have only : value.toUInt8 &&& 0x7e = 0 := by
      have all : ∀ b : UInt8, b.toNat < 2 → b &&& 0x7e = 0 := forall_uint8 (by decide +kernel)
      refine all _ ?_
      rw [UInt64.toNat_toUInt8]
      omega
    have whole := accumulate_toNat value.toUInt8 (Nat.le_refl 9) low (by omega)
    have total := UInt64.toNat_inj.1 (whole.trans (Nat.mod_eq_of_lt (Nat.lt_trans v.toNat_lt
      (by decide))))
    refine ⟨10, ?_, by omega, by omega, fun _ => rfl, fun nonzero => ?_⟩
    · simp only [varintBytes, List.cons_append, List.nil_append, readVarintFrom]
      rw [if_neg (by omega), if_neg (by simp [only]), if_pos last, total]
    · have : value.toNat ≠ 0 := fun zero => nonzero (UInt64.toNat_inj.1 zero)
      omega
  | succ n ih =>
    intro used value acc full high low
    have widen : v.toNat / 2 ^ (7 * (used + 1)) = v.toNat / 2 ^ (7 * used) / 128 := by
      rw [Nat.mul_add, Nat.pow_add, Nat.div_div_eq_div_mul]
    by_cases big : 0x80 ≤ value
    · have large : 128 ≤ value.toNat := big
      obtain ⟨byte, more⟩ := groupByte_toNat value
      have whole := accumulate_toNat ((value &&& 0x7f) ||| 0x80).toUInt8
        (by omega : used ≤ 9) low (by rw [byte, high])
      have shifted : (value >>> 7).toNat = v.toNat / 2 ^ (7 * (used + 1)) := by
        rw [widen, ← high, UInt64.toNat_shiftRight]
        exact Nat.shiftRight_eq_div_pow _ 7
      obtain ⟨k, read, more', most, _, top⟩ := ih (used + 1) _ _ (by omega) shifted whole
      have nonzero : value >>> 7 ≠ 0 := by
        intro zero
        rw [zero, widen, ← high] at shifted
        have : value.toNat / 128 = 0 := shifted.symm
        omega
      refine ⟨k, ?_, by omega, most, fun zero => ?_, fun _ => top nonzero⟩
      · simp only [varintBytes, if_pos big, List.cons_append, readVarintFrom]
        rw [if_neg (by omega), if_neg (by omega), if_neg more, if_neg (by omega)]
        exact read
      · rw [zero] at large
        exact absurd large (by decide)
    · have small : value.toNat < 128 := Nat.lt_of_not_le big
      obtain ⟨byte, last⟩ := lastByte_toNat small
      have whole := accumulate_toNat value.toUInt8 (by omega : used ≤ 9) low (by omega)
      have above : v.toNat / 2 ^ (7 * (used + 1)) = 0 := by
        rw [widen, ← high]
        omega
      have total := UInt64.toNat_inj.1 (whole.trans (Nat.mod_eq_of_lt
        ((Nat.div_eq_zero_iff_lt (Nat.two_pow_pos _)).1 above)))
      refine ⟨used + 1, ?_, by omega, by omega, fun _ => rfl, fun nonzero => ?_⟩
      · simp only [varintBytes, if_neg big, List.cons_append, List.nil_append, readVarintFrom]
        rw [if_neg (by omega), if_neg (by omega), if_pos last, total]
      · have : value.toNat ≠ 0 := fun zero => nonzero (UInt64.toNat_inj.1 zero)
        rw [Nat.add_sub_cancel]
        omega

/-- A written number is read back (source `CanonicalReader::read_varint`). -/
lemma readVarint_varint (v : UInt64) (rest : Bytes) :
    readVarint (varint v ++ rest) = .ok (v, rest) := by
  obtain ⟨k, read, _, most, least, top⟩ :=
    readVarintFrom_varintBytes (v := v) rest 9 0 v 0 rfl (by simp) (by simp [Nat.mod_one])
  have minimal : ¬ (1 < k ∧ v >>> UInt64.ofNat (7 * (k - 1)) = 0) := by
    rintro ⟨long, zero⟩
    have nonzero : v ≠ 0 := fun e => by
      have := least e
      omega
    refine top nonzero ?_
    have shift : (UInt64.ofNat (7 * (k - 1))).toNat % 64 = 7 * (k - 1) := by
      rw [UInt64.toNat_ofNat']
      omega
    have gone := congrArg UInt64.toNat zero
    rw [UInt64.toNat_shiftRight, shift, Nat.shiftRight_eq_div_pow] at gone
    exact gone
  unfold readVarint varint
  rw [read]
  simp only [bind_eq_ok, refuseIf_eq_ok]
  exact ⟨(v, k, rest), rfl, (), minimal, rfl⟩

/-- The sign bit fills the word (source `zigzag_encode`, `value >> 63`). -/
lemma getLsbD_signFill (b : BitVec 64) {i : Nat} (hi : i < 64) :
    (b.sshiftRight 63).getLsbD i = b.msb := by
  rw [BitVec.getLsbD_sshiftRight, BitVec.msb_eq_getLsbD_last]
  by_cases first : i = 0
  · subst first
    simp
  · have : ¬ 63 + i < 64 := by omega
    simp [hi, this]

/-- The low bit fills the word (source `zigzag_decode`, `~(value & 1) + 1`). -/
lemma getLsbD_lowFill (e : BitVec 64) {i : Nat} (hi : i < 64) :
    (~~~(e &&& 1#64) + 1#64).getLsbD i = e.getLsbD 0 := by
  have fill : ~~~(e &&& 1#64) + 1#64 = if e.getLsbD 0 then BitVec.allOnes 64 else 0#64 := by
    rw [BitVec.and_one_eq_setWidth_ofBool_getLsbD]
    cases e.getLsbD 0 <;> decide
  rw [fill]
  cases e.getLsbD 0
  · simp
  · rw [if_pos rfl, BitVec.getLsbD_allOnes, decide_eq_true hi]

/-- Undoing the interleaving gives the number back (source `zigzag_decode`). -/
lemma zigzagDecode_zigzagEncode (x : Int64) : zigzagDecode (zigzagEncode x) = x := by
  have encoded : (zigzagEncode x).toBitVec =
      (x.toBitVec <<< 1) ^^^ (x.toBitVec.sshiftRight 63) := by simp [zigzagEncode]
  apply Int64.toBitVec_inj.1
  have decoded : (zigzagDecode (zigzagEncode x)).toBitVec =
      ((zigzagEncode x).toBitVec >>> 1) ^^^
        (~~~((zigzagEncode x).toBitVec &&& 1#64) + 1#64) := by simp [zigzagDecode]
  have low : (zigzagEncode x).toBitVec.getLsbD 0 = x.toBitVec.msb := by
    rw [encoded, BitVec.getLsbD_xor, getLsbD_signFill _ (by decide)]
    simp
  rw [decoded]
  apply BitVec.eq_of_getLsbD_eq
  intro i hi
  rw [BitVec.getLsbD_xor, getLsbD_lowFill _ hi, low, BitVec.getLsbD_ushiftRight, encoded,
    BitVec.getLsbD_xor]
  by_cases last : i = 63
  · subst last
    simp [BitVec.msb_eq_getLsbD_last]
  · have next : 1 + i < 64 := by omega
    rw [getLsbD_signFill _ next]
    simp [next, BitVec.getLsbD_eq_getElem hi]

end Varint

namespace Value

mutual

/-- The nodes the reader counts for a value: values and keys (source `nodes_`). -/
def nodes : Value → Nat
  | .array elements => 1 + elementsNodes elements
  | .members ms => 1 + membersNodes ms
  | _ => 1

/-- The nodes of the elements of an array. -/
def elementsNodes : List Value → Nat
  | [] => 0
  | element :: rest => element.nodes + elementsNodes rest

/-- The nodes of the members of an object. -/
def membersNodes : List (Bytes × Value) → Nat
  | [] => 0
  | (_, value) :: rest => 1 + value.nodes + membersNodes rest

end

mutual

/-- The levels of nesting a value takes (source `depth`). -/
def height : Value → Nat
  | .array elements => 1 + elementsHeight elements
  | .members ms => 1 + membersHeight ms
  | _ => 1

/-- The levels the elements of an array take. -/
def elementsHeight : List Value → Nat
  | [] => 0
  | element :: rest => max element.height (elementsHeight rest)

/-- The levels the members of an object take. -/
def membersHeight : List (Bytes × Value) → Nat
  | [] => 0
  | (_, value) :: rest => max value.height (membersHeight rest)

end

/-- The keys of an object as `Value::object` keeps them. -/
def KeysOrdered (ms : List (Bytes × Value)) : Prop := ms.Pairwise fun lhs rhs => keyBefore lhs rhs = true

mutual

/-- A value is canonical and its texts, arrays and objects are within the limits of a reader. -/
def Within (lim : CanonicalLimits) : Value → Prop
  | .real value => value.isNaN = false
  | .text value => isValidUtf8 value = true ∧ value.length ≤ lim.maxStringBytes.toNat
  | .binary value => value.length ≤ lim.maxBinaryBytes.toNat
  | .array elements => elements.length ≤ lim.maxElements.toNat ∧ elementsWithin lim elements
  | .members ms => ms.length ≤ lim.maxObjectFields.toNat ∧ KeysOrdered ms ∧ membersWithin lim ms
  | _ => True

/-- The elements of an array are within the limits. -/
def elementsWithin (lim : CanonicalLimits) : List Value → Prop
  | [] => True
  | element :: rest => element.Within lim ∧ elementsWithin lim rest

/-- The members of an object are within the limits. -/
def membersWithin (lim : CanonicalLimits) : List (Bytes × Value) → Prop
  | [] => True
  | (key, value) :: rest =>
    (key ≠ [] ∧ isValidUtf8 key = true ∧ key.length ≤ lim.maxStringBytes.toNat) ∧
    value.Within lim ∧ membersWithin lim rest

end

end Value

section RoundTrip

variable {lim : CanonicalLimits} {size : Nat}

/-- A written length is read back within its limit (source `CanonicalReader::read_length`). -/
lemma readLength_varint {length : Nat} {limit : UInt64} {what : String} (fits : length ≤ limit.toNat)
    (rest : Bytes) :
    readLength (varint (UInt64.ofNat length) ++ rest) limit what = .ok (length, rest) := by
  have number : (UInt64.ofNat length).toNat = length := by
    rw [UInt64.toNat_ofNat', Nat.mod_eq_of_lt (Nat.lt_of_le_of_lt fits limit.toNat_lt)]
  unfold readLength
  rw [readVarint_varint]
  simp only [bind_eq_ok, refuseIf_eq_ok]
  refine ⟨_, rfl, (), ?_, by rw [number]⟩
  rw [UInt64.lt_iff_toNat_lt, number]
  omega

/-- Bytes that are there are read (source `CanonicalReader::read_bytes_exact`). -/
lemma readBytesExact_append (bytes rest : Bytes) :
    readBytesExact (bytes ++ rest) bytes.length = .ok (bytes, rest) := by
  unfold readBytesExact
  rw [refuseIf_bind_eq_ok]
  refine ⟨by simp, ?_⟩
  rw [List.take_left, List.drop_left]

/-- A written text is read back (source `CanonicalReader::read_value_at_depth`). -/
lemma readText_append {t : Bytes} {what : String} (valid : isValidUtf8 t = true)
    (fits : t.length ≤ lim.maxStringBytes.toNat) (rest : Bytes) :
    readText lim what (varint (UInt64.ofNat t.length) ++ (t ++ rest)) = .ok (t, rest) := by
  unfold readText
  rw [readLength_varint fits]
  simp only [bind_eq_ok, refuseIf_eq_ok]
  exact ⟨_, rfl, _, readBytesExact_append t rest, (), by simp [valid], rfl⟩

/-- A tag is read from a document within the limit (source `CanonicalReader::read_tag`). -/
lemma readTag_cons (document : size ≤ lim.maxDocumentBytes.toNat) (tag : UInt8) (rest : Bytes) :
    readTag lim size (tag :: rest) = .ok (tag, rest) := by
  unfold readTag
  rw [refuseIf_bind_eq_ok]
  exact ⟨Nat.not_lt.2 document, rfl⟩

/-- A node within the budget is counted (source `++nodes_`). -/
lemma countNode_eq {bytes : Bytes} {nodes : Nat} (room : nodes < lim.maxNodes.toNat) :
    countNode lim ⟨bytes, nodes⟩ = .ok ⟨bytes, nodes + 1⟩ := by
  unfold countNode
  rw [refuseIf_bind_eq_ok]
  exact ⟨Nat.not_le.2 room, rfl⟩

/-- A value is read by its tag (source `CanonicalReader::read_value_at_depth`). -/
lemma readValue_cons {levels nodes : Nat} (document : size ≤ lim.maxDocumentBytes.toNat)
    (room : nodes < lim.maxNodes.toNat) (tag : UInt8) (rest : Bytes) :
    readValue lim size (levels + 1) ⟨tag :: rest, nodes⟩ =
      readTagged lim size (readValue lim size levels) tag ⟨rest, nodes + 1⟩ := by
  rw [readValue, countNode_eq room]
  simp only [bind, Except.bind, readTag_cons document]

/-- A written key is read back after a smaller one (source
`CanonicalReader::read_value_at_depth`, the head of the object loop). -/
lemma readKey_append {key : Bytes} {previous : Option Bytes} {nodes : Nat}
    (document : size ≤ lim.maxDocumentBytes.toNat) (room : nodes < lim.maxNodes.toNat)
    (named : key ≠ []) (valid : isValidUtf8 key = true)
    (fits : key.length ≤ lim.maxStringBytes.toNat)
    (after : ∀ p, previous = some p → (compareBytes p key).isLT = true) (rest : Bytes) :
    readKey lim size previous
      ⟨5 :: (varint (UInt64.ofNat key.length) ++ (key ++ rest)), nodes⟩ =
      .ok (key, ⟨rest, nodes + 1⟩) := by
  have sorted : ¬ previous.any (fun p => (compareBytes p key).isGE) = true := by
    cases previous with
    | none => simp
    | some p =>
      have before := after p rfl
      rw [Ordering.isLT_iff_eq_lt] at before
      simp [before, Ordering.isGE]
  unfold readKey
  rw [countNode_eq room]
  simp only [bind_eq_ok, refuseIf_eq_ok]
  exact ⟨_, rfl, _, readTag_cons document _ _, (), by simp, _, readText_append valid fits rest,
    (), named, (), sorted, rfl⟩

/-- A member with the largest key is added at the end (source `Value::set_unique`). -/
lemma setUnique_append {ms : List (Bytes × Value)} {key : Bytes} {value : Value}
    (named : key ≠ []) (after : ∀ m ∈ ms, (compareBytes m.1 key).isLT = true) :
    (Value.members ms).setUnique key value = .ok (.members (ms ++ [(key, value)])) := by
  have none_left : Value.lowerBound ms key = [] := List.dropWhile_eq_nil_iff.2 after
  have all : ms.takeWhile (fun m => (compareBytes m.1 key).isLT) = ms :=
    List.takeWhile_eq_self_iff.2 after
  simp only [Value.setUnique, named, if_false, none_left, all]

/-- The keys before a key of an ordered object are smaller. -/
lemma keysOrdered_before {done ms : List (Bytes × Value)} {m : Bytes × Value}
    (ordered : Value.KeysOrdered (done ++ m :: ms)) :
    ∀ n ∈ done, (compareBytes n.1 m.1).isLT = true := by
  intro n hn
  have pairs := (List.pairwise_append.1 ordered).2.2
  exact pairs n hn m (by simp)

open CanonicalWriter

mutual

/-- A written value is read back, with the bytes after it and its nodes counted
(source `CanonicalReader::read_value_at_depth`). -/
lemma readValue_writeValue (v : Value) (levels nodes : Nat) (rest : Bytes)
    (document : size ≤ lim.maxDocumentBytes.toNat) (within : v.Within lim)
    (height : v.height ≤ levels) (room : nodes + v.nodes ≤ lim.maxNodes.toNat) :
    readValue lim size levels ⟨(new.writeValue v).bytes ++ rest, nodes⟩ =
      .ok (v, ⟨rest, nodes + v.nodes⟩) ∧ (new.writeValue v).failed = false := by
  obtain ⟨levels, rfl⟩ : ∃ l, levels = l + 1 := by
    refine Nat.exists_eq_add_one.2 (Nat.lt_of_lt_of_le ?_ height)
    cases v <;> simp only [Value.height] <;> omega
  have start : nodes < lim.maxNodes.toNat := by
    refine Nat.lt_of_lt_of_le (Nat.lt_add_of_pos_right ?_) room
    cases v <;> simp only [Value.nodes] <;> omega
  cases v with
  | null =>
    refine ⟨?_, rfl⟩
    simp only [writeValue, nullValue, append, new, List.nil_append, List.cons_append]
    rw [readValue_cons document start]
    rfl
  | boolean value =>
    refine ⟨?_, rfl⟩
    simp only [writeValue, CanonicalWriter.boolean, append, new, List.nil_append, List.cons_append]
    rw [readValue_cons document start]
    cases value <;> rfl
  | integer value =>
    refine ⟨?_, rfl⟩
    simp only [writeValue, CanonicalWriter.integer, append, new, List.nil_append, List.cons_append]
    rw [readValue_cons document start]
    simp [readTagged, readVarint_varint, zigzagDecode_zigzagEncode, bind, Except.bind, Value.nodes]
  | unsigned value =>
    refine ⟨?_, rfl⟩
    simp only [writeValue, unsignedInteger, append, new, List.nil_append, List.cons_append]
    rw [readValue_cons document start]
    simp [readTagged, readVarint_varint, bind, Except.bind, Value.nodes]
  | real value =>
    have number : value.isNaN = false := within
    have word : (⟨UInt64.ofNat (ofLittleEndian (littleEndian 8 value.bits.toNat))⟩ : Binary64) =
        value := by
      have fits : value.bits.toNat < 256 ^ 8 := value.bits.toNat_lt
      rw [ofLittleEndian_littleEndian fits, UInt64.ofNat_toNat]
    have long : ¬ 8 + rest.length < 8 := by omega
    simp only [writeValue, CanonicalWriter.real, number, Bool.false_eq_true, if_false, append, new,
      List.nil_append, List.cons_append]
    refine ⟨?_, trivial⟩
    rw [readValue_cons document start]
    simp [readTagged, refuseIf, bind, Except.bind, long, word, number, Value.nodes]
  | text value =>
    obtain ⟨valid, fits⟩ : isValidUtf8 value = true ∧ _ := within
    simp only [writeValue, CanonicalWriter.text, valid, if_true, append, new, List.nil_append,
      List.cons_append, List.append_assoc]
    refine ⟨?_, trivial⟩
    rw [readValue_cons document start]
    simp [readTagged, readText_append valid fits, bind, Except.bind, Value.nodes]
  | binary value =>
    have fits : value.length ≤ lim.maxBinaryBytes.toNat := within
    refine ⟨?_, rfl⟩
    simp only [writeValue, CanonicalWriter.binary, append, new, List.nil_append, List.cons_append,
      List.append_assoc]
    rw [readValue_cons document start]
    simp [readTagged, readLength_varint fits, readBytesExact_append, bind, Except.bind,
      Value.nodes]
  | array elements =>
    obtain ⟨fits, inside⟩ : _ ∧ Value.elementsWithin lim elements := within
    simp only [Value.height, Value.nodes] at height room ⊢
    simp only [writeValue, beginArray]
    rw [writeElements_eq]
    simp only [andThen, append, new, List.nil_append, List.cons_append, List.append_assoc,
      Bool.false_or]
    obtain ⟨read, written⟩ := readElements_writeElements elements levels (nodes + 1) rest document
      inside (by omega) (by omega)
    refine ⟨?_, written⟩
    rw [readValue_cons document start]
    simp only [new] at read
    simp [readTagged, readLength_varint fits, read, bind, Except.bind, Nat.add_assoc]
  | members ms =>
    obtain ⟨fits, ordered, inside⟩ : _ ∧ _ ∧ Value.membersWithin lim ms := within
    simp only [Value.height, Value.nodes] at height room ⊢
    simp only [writeValue, beginObject]
    rw [writeMembers_eq]
    simp only [andThen, append, new, List.nil_append, List.cons_append, List.append_assoc,
      Bool.false_or]
    obtain ⟨read, written⟩ := readMembers_writeMembers [] ms none levels (nodes + 1) rest document
      ordered (by simp) inside (by omega) (by omega)
    refine ⟨?_, written⟩
    rw [readValue_cons document start]
    simp only [new, List.nil_append] at read
    simp [readTagged, readLength_varint fits, read, bind, Except.bind, Nat.add_assoc]

/-- Written elements are read back (source `CanonicalReader::read_value_at_depth`, the array
loop). -/
lemma readElements_writeElements (es : List Value) (levels nodes : Nat) (rest : Bytes)
    (document : size ≤ lim.maxDocumentBytes.toNat) (within : Value.elementsWithin lim es)
    (height : Value.elementsHeight es ≤ levels)
    (room : nodes + Value.elementsNodes es ≤ lim.maxNodes.toNat) :
    readElements (readValue lim size levels) es.length
      ⟨(new.writeElements es).bytes ++ rest, nodes⟩ =
      .ok (es, ⟨rest, nodes + Value.elementsNodes es⟩) ∧
    (new.writeElements es).failed = false := by
  cases es with
  | nil => exact ⟨rfl, rfl⟩
  | cons e es =>
    obtain ⟨first, others⟩ : e.Within lim ∧ Value.elementsWithin lim es := within
    simp only [Value.elementsHeight, Value.elementsNodes] at height room ⊢
    simp only [writeElements]
    rw [writeElements_eq]
    simp only [andThen, List.append_assoc, List.length_cons, readElements]
    obtain ⟨readFirst, writtenFirst⟩ := readValue_writeValue e levels nodes
      ((new.writeElements es).bytes ++ rest) document first (by omega) (by omega)
    obtain ⟨readOthers, writtenOthers⟩ := readElements_writeElements es levels (nodes + e.nodes)
      rest document others (by omega) (by omega)
    refine ⟨?_, by rw [writtenFirst, writtenOthers]; rfl⟩
    rw [readFirst]
    simp only [bind, Except.bind]
    rw [readOthers, Nat.add_assoc]

/-- Written members are read back after the members `done`
(source `CanonicalReader::read_value_at_depth`, the object loop). -/
lemma readMembers_writeMembers (done ms : List (Bytes × Value)) (previous : Option Bytes)
    (levels nodes : Nat) (rest : Bytes) (document : size ≤ lim.maxDocumentBytes.toNat)
    (ordered : Value.KeysOrdered (done ++ ms))
    (last : ∀ p, previous = some p → p ∈ done.map Prod.fst)
    (within : Value.membersWithin lim ms) (height : Value.membersHeight ms ≤ levels)
    (room : nodes + Value.membersNodes ms ≤ lim.maxNodes.toNat) :
    readMembers lim size (readValue lim size levels) ms.length previous (.members done)
      ⟨(new.writeMembers ms).bytes ++ rest, nodes⟩ =
      .ok (.members (done ++ ms), ⟨rest, nodes + Value.membersNodes ms⟩) ∧
    (new.writeMembers ms).failed = false := by
  cases ms with
  | nil =>
    refine ⟨?_, rfl⟩
    rw [List.append_nil]
    rfl
  | cons m ms =>
    obtain ⟨key, value⟩ := m
    obtain ⟨⟨named, valid, fits⟩, first, others⟩ :
      _ ∧ value.Within lim ∧ Value.membersWithin lim ms := within
    have before := keysOrdered_before ordered
    have after : ∀ p, previous = some p → (compareBytes p key).isLT = true := by
      intro p hp
      obtain ⟨n, hn, rfl⟩ := List.mem_map.1 (last p hp)
      exact before n hn
    simp only [Value.membersHeight, Value.membersNodes] at height room ⊢
    simp only [writeMembers]
    rw [writeMembers_eq, writeValue_eq]
    simp only [field, named, if_false, CanonicalWriter.text, valid, if_true, andThen, append, new,
      List.nil_append, List.cons_append, List.append_assoc, List.length_cons, readMembers,
      Bool.false_or]
    obtain ⟨readFirst, writtenFirst⟩ := readValue_writeValue value levels (nodes + 1)
      ((new.writeMembers ms).bytes ++ rest) document first (by omega) (by omega)
    obtain ⟨readOthers, writtenOthers⟩ := readMembers_writeMembers (done ++ [(key, value)]) ms
      (some key) levels (nodes + 1 + value.nodes) rest document
      (by rw [List.append_assoc]; exact ordered) (by simp) others (by omega) (by omega)
    simp only [new] at readFirst writtenFirst readOthers writtenOthers
    refine ⟨?_, by rw [writtenFirst, writtenOthers]; rfl⟩
    rw [readKey_append document (by omega) named valid fits after]
    simp only [bind, Except.bind]
    rw [readFirst]
    simp only
    rw [setUnique_append named before]
    simp only
    rw [readOthers, List.append_assoc]
    simp only [List.cons_append, List.nil_append, Nat.add_assoc]

end

/-- A written document is read back (source `CanonicalReader::read_document`). -/
theorem readDocument_writeValue {v : Value} (within : v.Within lim)
    (height : v.height ≤ lim.maxDepth.toNat + 1) (room : v.nodes ≤ lim.maxNodes.toNat)
    (document : (new.writeValue v).bytes.length ≤ lim.maxDocumentBytes.toNat) :
    readDocument lim (new.writeValue v).bytes = .ok v := by
  obtain ⟨read, _⟩ := readValue_writeValue v (lim.maxDepth.toNat + 1) 0 [] document within height
    (by omega)
  rw [List.append_nil] at read
  unfold readDocument
  rw [read]
  simp only [bind_eq_ok, refuseIf_eq_ok]
  exact ⟨_, rfl, (), by simp, rfl⟩

end RoundTrip

end TransceiverRegistry
