import TransceiverRegistry.Canonical.Acceptance

/-!
# What was written determines the document

The bytes of a document that was written without a failure tell where it ends and which document it
is, whatever the order of its member keys. So two documents written alike are one document, also
where the reader, which asks for ordered keys, would accept neither.
-/

namespace TransceiverRegistry

open Lib CanonicalWriter

/-- A written number ends where its last group ends (source `append_varint`). -/
lemma varint_append_inj {a b : UInt64} {rest rest' : Bytes}
    (same : varint a ++ rest = varint b ++ rest') : a = b ∧ rest = rest' := by
  have read := readVarint_varint a rest
  rw [same, readVarint_varint] at read
  cases read
  exact ⟨rfl, rfl⟩

/-- The interleaving is one-to-one (source `zigzag_encode`). -/
lemma zigzagEncode_inj {a b : Int64} (same : zigzagEncode a = zigzagEncode b) : a = b := by
  rw [← zigzagDecode_zigzagEncode a, same, zigzagDecode_zigzagEncode]

/-- A written count ends where its last group ends (source `CanonicalWriter::begin_array`). -/
lemma count_append_inj {n n' : Nat} {rest rest' : Bytes} (small : n < 2 ^ 64) (small' : n' < 2 ^ 64)
    (same : varint (UInt64.ofNat n) ++ rest = varint (UInt64.ofNat n') ++ rest') :
    n = n' ∧ rest = rest' := by
  obtain ⟨counts, rests⟩ := varint_append_inj same
  have numbers := congrArg UInt64.toNat counts
  rw [UInt64.toNat_ofNat', UInt64.toNat_ofNat', Nat.mod_eq_of_lt small,
    Nat.mod_eq_of_lt small'] at numbers
  exact ⟨numbers, rests⟩

/-- Written bytes end where their count says (source `CanonicalWriter::binary`). -/
lemma counted_append_inj {t t' rest rest' : Bytes} (small : t.length < 2 ^ 64)
    (small' : t'.length < 2 ^ 64) (same : varint (UInt64.ofNat t.length) ++ (t ++ rest) =
      varint (UInt64.ofNat t'.length) ++ (t' ++ rest')) : t = t' ∧ rest = rest' := by
  obtain ⟨lengths, contents⟩ := count_append_inj small small' same
  exact List.append_inj contents lengths

/-- A written text ends where its count says (source `CanonicalWriter::text`). -/
lemma text_append_inj {t t' rest rest' : Bytes} (written : (new.text t).failed = false)
    (written' : (new.text t').failed = false) (small : (new.text t).bytes.length < 2 ^ 64)
    (small' : (new.text t').bytes.length < 2 ^ 64)
    (same : (new.text t).bytes ++ rest = (new.text t').bytes ++ rest') : t = t' ∧ rest = rest' := by
  obtain ⟨valid, short⟩ := text_written written
  obtain ⟨valid', short'⟩ := text_written written'
  rw [CanonicalWriter.text, CanonicalWriter.text, if_pos valid, if_pos valid'] at same
  simp only [append, new, List.nil_append, List.cons_append, List.append_assoc, List.cons.injEq,
    true_and] at same
  exact counted_append_inj (short.trans small) (short'.trans small') same

/-- A written key ends where its count says (source `CanonicalWriter::field`). -/
lemma field_append_inj {key key' rest rest' : Bytes} (written : (new.field key).failed = false)
    (written' : (new.field key').failed = false) (small : (new.field key).bytes.length < 2 ^ 64)
    (small' : (new.field key').bytes.length < 2 ^ 64)
    (same : (new.field key).bytes ++ rest = (new.field key').bytes ++ rest') :
    key = key' ∧ rest = rest' := by
  obtain ⟨some, _⟩ := field_written written
  obtain ⟨some', _⟩ := field_written written'
  rw [field, if_neg some] at same written small
  rw [field, if_neg some'] at same written' small'
  exact text_append_inj written written' small small' same

/-- A number that is not a NaN is written by its bits (source `CanonicalWriter::real`). -/
lemma real_written {value : Binary64} (written : (new.real value).failed = false) :
    (new.real value).bytes = 4 :: littleEndian 8 value.bits.toNat := by
  rw [real] at written ⊢
  split at written
  · cases written
  · rename_i number
    rw [if_neg number]
    rfl

/-- The bytes of a number are its bits (source `CanonicalWriter::real`). -/
lemma real_bytes_inj {a b : Binary64}
    (same : littleEndian 8 a.bits.toNat = littleEndian 8 b.bits.toNat) : a = b := by
  have words := congrArg ofLittleEndian same
  rw [ofLittleEndian_littleEndian a.bits.toNat_lt, ofLittleEndian_littleEndian b.bits.toNat_lt]
    at words
  exact congrArg Binary64.mk (UInt64.toNat_inj.1 words)

/-- An array is written as its count and its elements (source `CanonicalWriter::write_value`). -/
lemma writeValue_array (es : List Value) : new.writeValue (.array es) =
    (new.beginArray es.length).andThen (new.writeElements es) := by
  rw [writeValue, writeElements_eq]

/-- An object is written as its count and its members (source `CanonicalWriter::write_value`). -/
lemma writeValue_members (ms : List (Bytes × Value)) : new.writeValue (.members ms) =
    (new.beginObject ms.length).andThen (new.writeMembers ms) := by
  rw [writeValue, writeMembers_eq]

/-- The elements are written one after the other (source `CanonicalWriter::write_value`). -/
lemma writeElements_cons (e : Value) (es : List Value) : new.writeElements (e :: es) =
    (new.writeValue e).andThen (new.writeElements es) := by
  rw [writeElements, writeElements_eq]

/-- The members are written one after the other (source `CanonicalWriter::write_value`). -/
lemma writeMembers_cons (key : Bytes) (v : Value) (ms : List (Bytes × Value)) :
    new.writeMembers ((key, v) :: ms) =
      (new.field key).andThen ((new.writeValue v).andThen (new.writeMembers ms)) := by
  rw [writeMembers, writeMembers_eq, writeValue_eq, andThen_assoc]

/-- The byte that a document starts with (source `CanonicalWriter::write_value`). -/
def Value.tag : Value → UInt8
  | .null => 0
  | .boolean value => if value then 2 else 1
  | .integer _ => 3
  | .unsigned _ => 9
  | .real _ => 4
  | .text _ => 5
  | .binary _ => 6
  | .array _ => 7
  | .members _ => 8

/-- What was written for a document starts with its tag (source `CanonicalWriter::write_value`). -/
lemma writeValue_tag {v : Value} (written : (new.writeValue v).failed = false) :
    ∃ content, (new.writeValue v).bytes = v.tag :: content := by
  cases v with
  | null | boolean | integer | unsigned | binary => exact ⟨_, rfl⟩
  | real value =>
    rw [writeValue, real_written written]
    exact ⟨_, rfl⟩
  | text value =>
    rw [writeValue, CanonicalWriter.text, if_pos (text_written written).1]
    exact ⟨_, rfl⟩
  | array elements =>
    rw [writeValue_array]
    exact ⟨_, rfl⟩
  | members ms =>
    rw [writeValue_members]
    exact ⟨_, rfl⟩

/-- Elements that were written took a byte each (source `CanonicalWriter::write_value`). -/
lemma length_le_writeElements (es : List Value) (written : (new.writeElements es).failed = false) :
    es.length ≤ (new.writeElements es).bytes.length := by
  induction es with
  | nil => exact Nat.zero_le _
  | cons e es ih =>
    rw [writeElements_cons] at written ⊢
    obtain ⟨first, others⟩ := andThen_written written
    obtain ⟨content, bytes⟩ := writeValue_tag first
    have := ih others
    simp only [andThen, bytes, List.length_cons, List.length_append]
    omega

/-- Members that were written took a byte each (source `CanonicalWriter::write_value`). -/
lemma length_le_writeMembers (ms : List (Bytes × Value))
    (written : (new.writeMembers ms).failed = false) :
    ms.length ≤ (new.writeMembers ms).bytes.length := by
  induction ms with
  | nil => exact Nat.zero_le _
  | cons m ms ih =>
    obtain ⟨key, v⟩ := m
    rw [writeMembers_cons] at written ⊢
    obtain ⟨name, rest⟩ := andThen_written written
    obtain ⟨first, others⟩ := andThen_written rest
    obtain ⟨content, bytes⟩ := writeValue_tag first
    have := ih others
    simp only [andThen, bytes, List.length_cons, List.length_append]
    omega

mutual

/-- A written document tells where it ends and which document it is
(source `CanonicalWriter::write_value`). -/
lemma writeValue_append_inj (v v' : Value) {rest rest' : Bytes}
    (written : (new.writeValue v).failed = false) (written' : (new.writeValue v').failed = false)
    (small : (new.writeValue v).bytes.length < 2 ^ 64)
    (small' : (new.writeValue v').bytes.length < 2 ^ 64)
    (same : (new.writeValue v).bytes ++ rest = (new.writeValue v').bytes ++ rest') :
    v = v' ∧ rest = rest' := by
  have tags : v.tag = v'.tag := by
    obtain ⟨content, bytes⟩ := writeValue_tag written
    obtain ⟨content', bytes'⟩ := writeValue_tag written'
    rw [bytes, bytes'] at same
    exact (List.cons.inj same).1
  cases v with
  | null =>
    cases v' with
    | null => exact ⟨rfl, List.append_cancel_left same⟩
    | boolean value => cases value <;> cases tags
    | _ => cases tags
  | boolean value =>
    cases v' with
    | boolean value' =>
      cases value <;> cases value' <;>
        first | exact ⟨rfl, List.append_cancel_left same⟩ | cases tags
    | _ => cases value <;> cases tags
  | integer value =>
    cases v' with
    | integer value' =>
      obtain ⟨numbers, rests⟩ := varint_append_inj (List.cons.inj same).2
      exact ⟨congrArg Value.integer (zigzagEncode_inj numbers), rests⟩
    | boolean value => cases value <;> cases tags
    | _ => cases tags
  | unsigned value =>
    cases v' with
    | unsigned value' =>
      obtain ⟨numbers, rests⟩ := varint_append_inj (List.cons.inj same).2
      exact ⟨congrArg Value.unsigned numbers, rests⟩
    | boolean value => cases value <;> cases tags
    | _ => cases tags
  | real value =>
    cases v' with
    | real value' =>
      rw [writeValue, writeValue, real_written written, real_written written'] at same
      obtain ⟨words, rests⟩ := List.append_inj (List.cons.inj same).2 (by simp)
      exact ⟨congrArg Value.real (real_bytes_inj words), rests⟩
    | boolean value => cases value <;> cases tags
    | _ => cases tags
  | text value =>
    cases v' with
    | text value' =>
      obtain ⟨texts, rests⟩ := text_append_inj written written' small small' same
      exact ⟨congrArg Value.text texts, rests⟩
    | boolean value => cases value <;> cases tags
    | _ => cases tags
  | binary value =>
    cases v' with
    | binary value' =>
      simp only [writeValue, binary, append, new, List.nil_append, List.cons_append,
        List.append_assoc, List.cons.injEq, true_and, List.length_cons, List.length_append]
        at same small small'
      obtain ⟨contents, rests⟩ := counted_append_inj (by omega) (by omega) same
      exact ⟨congrArg Value.binary contents, rests⟩
    | boolean value => cases value <;> cases tags
    | _ => cases tags
  | array elements =>
    cases v' with
    | array elements' =>
      simp only [writeValue_array] at written written' small small' same
      obtain ⟨_, all⟩ := andThen_written written
      obtain ⟨_, all'⟩ := andThen_written written'
      have count := length_le_writeElements elements all
      have count' := length_le_writeElements elements' all'
      simp only [andThen, beginArray, append, new, List.nil_append, List.cons_append,
        List.append_assoc, List.cons.injEq, true_and, List.length_cons, List.length_append]
        at same small small' count count'
      obtain ⟨counts, contents⟩ := count_append_inj (by omega) (by omega) same
      obtain ⟨same, rests⟩ := writeElements_append_inj elements elements' counts all all'
        (by simp only [new]; omega) (by simp only [new]; omega) contents
      exact ⟨congrArg Value.array same, rests⟩
    | boolean value => cases value <;> cases tags
    | _ => cases tags
  | members ms =>
    cases v' with
    | members ms' =>
      simp only [writeValue_members] at written written' small small' same
      obtain ⟨_, all⟩ := andThen_written written
      obtain ⟨_, all'⟩ := andThen_written written'
      have count := length_le_writeMembers ms all
      have count' := length_le_writeMembers ms' all'
      simp only [andThen, beginObject, append, new, List.nil_append, List.cons_append,
        List.append_assoc, List.cons.injEq, true_and, List.length_cons, List.length_append]
        at same small small' count count'
      obtain ⟨counts, contents⟩ := count_append_inj (by omega) (by omega) same
      obtain ⟨same, rests⟩ := writeMembers_append_inj ms ms' counts all all'
        (by simp only [new]; omega) (by simp only [new]; omega) contents
      exact ⟨congrArg Value.members same, rests⟩
    | boolean value => cases value <;> cases tags
    | _ => cases tags

/-- Written elements tell where they end and which they are (source
`CanonicalWriter::write_value`, the array loop). -/
lemma writeElements_append_inj (es es' : List Value) {rest rest' : Bytes}
    (count : es.length = es'.length) (written : (new.writeElements es).failed = false)
    (written' : (new.writeElements es').failed = false)
    (small : (new.writeElements es).bytes.length < 2 ^ 64)
    (small' : (new.writeElements es').bytes.length < 2 ^ 64)
    (same : (new.writeElements es).bytes ++ rest = (new.writeElements es').bytes ++ rest') :
    es = es' ∧ rest = rest' := by
  cases es with
  | nil =>
    obtain rfl := List.length_eq_zero_iff.1 count.symm
    exact ⟨rfl, same⟩
  | cons e es =>
    cases es' with
    | nil => cases count
    | cons e' es' =>
      simp only [writeElements_cons] at written written' small small' same
      obtain ⟨first, others⟩ := andThen_written written
      obtain ⟨first', others'⟩ := andThen_written written'
      simp only [andThen, List.length_append, List.append_assoc] at small small' same
      obtain ⟨rfl, contents⟩ := writeValue_append_inj e e' first first' (by omega) (by omega) same
      obtain ⟨rfl, rests⟩ := writeElements_append_inj es es' (Nat.succ.inj count) others others'
        (by omega) (by omega) contents
      exact ⟨rfl, rests⟩

/-- Written members tell where they end and which they are (source
`CanonicalWriter::write_value`, the object loop). -/
lemma writeMembers_append_inj (ms ms' : List (Bytes × Value)) {rest rest' : Bytes}
    (count : ms.length = ms'.length) (written : (new.writeMembers ms).failed = false)
    (written' : (new.writeMembers ms').failed = false)
    (small : (new.writeMembers ms).bytes.length < 2 ^ 64)
    (small' : (new.writeMembers ms').bytes.length < 2 ^ 64)
    (same : (new.writeMembers ms).bytes ++ rest = (new.writeMembers ms').bytes ++ rest') :
    ms = ms' ∧ rest = rest' := by
  cases ms with
  | nil =>
    obtain rfl := List.length_eq_zero_iff.1 count.symm
    exact ⟨rfl, same⟩
  | cons m ms =>
    cases ms' with
    | nil => cases count
    | cons m' ms' =>
      obtain ⟨key, v⟩ := m
      obtain ⟨key', v'⟩ := m'
      simp only [writeMembers_cons] at written written' small small' same
      obtain ⟨name, value⟩ := andThen_written written
      obtain ⟨name', value'⟩ := andThen_written written'
      obtain ⟨first, others⟩ := andThen_written value
      obtain ⟨first', others'⟩ := andThen_written value'
      simp only [andThen, List.length_append, List.append_assoc] at small small' same
      obtain ⟨rfl, values⟩ := field_append_inj name name' (by omega) (by omega) same
      obtain ⟨rfl, contents⟩ := writeValue_append_inj v v' first first' (by omega) (by omega) values
      obtain ⟨rfl, rests⟩ := writeMembers_append_inj ms ms' (Nat.succ.inj count) others others'
        (by omega) (by omega) contents
      exact ⟨rfl, rests⟩

end

/-- Two documents that were written alike are one document (source
`CanonicalWriter::write_value`). -/
theorem writeValue_inj {v v' : Value} (written : (new.writeValue v).failed = false)
    (written' : (new.writeValue v').failed = false)
    (small : (new.writeValue v).bytes.length < 2 ^ 64)
    (same : (new.writeValue v).bytes = (new.writeValue v').bytes) : v = v' := by
  have alike : (new.writeValue v).bytes ++ [] = (new.writeValue v').bytes ++ [] := by rw [same]
  exact (writeValue_append_inj v v' written written' small (same ▸ small) alike).1

end TransceiverRegistry
