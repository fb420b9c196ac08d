import TransceiverRegistry.Canonical.RoundTrip

/-!
# Canonical documents and their weight

A value is canonical when every object in it has its keys in order, which is what `Value::object`
establishes. Its weight bounds the bytes that are written for it and the nodes that are counted when
they are read, so one bound on a weight keeps a document inside every size limit of the reader.
-/

namespace TransceiverRegistry

open Lib CanonicalWriter

namespace Value

mutual

/-- The keys of every object are in order (source `Value::object`). -/
def Canonical : Value → Prop
  | .array elements => elementsCanonical elements
  | .members ms => KeysOrdered ms ∧ membersCanonical ms
  | _ => True

/-- The elements of an array are canonical. -/
def elementsCanonical : List Value → Prop
  | [] => True
  | element :: rest => element.Canonical ∧ elementsCanonical rest

/-- The values of an object are canonical. -/
def membersCanonical : List (Bytes × Value) → Prop
  | [] => True
  | (_, value) :: rest => value.Canonical ∧ membersCanonical rest

end

mutual

/-- A bound on the bytes of a value: sixteen for a tag and a number, and the bytes of its texts. -/
def weight : Value → Nat
  | .text value => 16 + value.length
  | .binary value => 16 + value.length
  | .array elements => 16 + elementsWeight elements
  | .members ms => 16 + membersWeight ms
  | _ => 16

/-- The weight of the elements of an array. -/
def elementsWeight : List Value → Nat
  | [] => 0
  | element :: rest => element.weight + elementsWeight rest

/-- The weight of the members of an object. -/
def membersWeight : List (Bytes × Value) → Nat
  | [] => 0
  | (key, value) :: rest => 16 + key.length + value.weight + membersWeight rest

end

lemma elementsCanonical_iff {es : List Value} :
    elementsCanonical es ↔ ∀ e ∈ es, e.Canonical := by
  induction es with
  | nil => simp [elementsCanonical]
  | cons e rest ih => simp [elementsCanonical, ih]

lemma membersCanonical_iff {ms : List (Bytes × Value)} :
    membersCanonical ms ↔ ∀ m ∈ ms, m.2.Canonical := by
  induction ms with
  | nil => simp [membersCanonical]
  | cons m rest ih => simp [membersCanonical, ih]

lemma elementsWithin_iff {lim : CanonicalLimits} {es : List Value} :
    elementsWithin lim es ↔ ∀ e ∈ es, e.Within lim := by
  induction es with
  | nil => simp [elementsWithin]
  | cons e rest ih => simp [elementsWithin, ih]

lemma membersWithin_iff {lim : CanonicalLimits} {ms : List (Bytes × Value)} :
    membersWithin lim ms ↔ ∀ m ∈ ms,
      (m.1 ≠ [] ∧ isValidUtf8 m.1 = true ∧ m.1.length ≤ lim.maxStringBytes.toNat) ∧
        m.2.Within lim := by
  induction ms with
  | nil => simp [membersWithin]
  | cons m rest ih => simp [membersWithin, ih, and_assoc]

lemma elementsHeight_le {es : List Value} {n : Nat} :
    elementsHeight es ≤ n ↔ ∀ e ∈ es, e.height ≤ n := by
  induction es with
  | nil => simp [elementsHeight]
  | cons e rest ih => simp [elementsHeight, ih]

lemma membersHeight_le {ms : List (Bytes × Value)} {n : Nat} :
    membersHeight ms ≤ n ↔ ∀ m ∈ ms, m.2.height ≤ n := by
  induction ms with
  | nil => simp [membersHeight]
  | cons m rest ih => simp [membersHeight, ih]

lemma elementsWeight_eq (es : List Value) : elementsWeight es = (es.map weight).sum := by
  induction es with
  | nil => rfl
  | cons e rest ih => simp [elementsWeight, ih]

lemma membersWeight_eq (ms : List (Bytes × Value)) :
    membersWeight ms = (ms.map fun m => 16 + m.1.length + m.2.weight).sum := by
  induction ms with
  | nil => rfl
  | cons m rest ih => simp [membersWeight, ih]

/-- Every value is a node. -/
lemma one_le_nodes (v : Value) : 1 ≤ v.nodes := by
  cases v <;> simp only [nodes] <;> omega

mutual

/-- Four units of weight pay for a node (source `nodes_`). -/
lemma nodes_le_weight (v : Value) : 4 * v.nodes ≤ v.weight := by
  cases v with
  | array elements =>
    have := elementsNodes_le elements
    simp only [nodes, weight]
    omega
  | members ms =>
    have := membersNodes_le ms
    simp only [nodes, weight]
    omega
  | _ =>
    simp only [nodes, weight]
    omega

lemma elementsNodes_le (es : List Value) : 4 * elementsNodes es ≤ elementsWeight es := by
  cases es with
  | nil => simp [elementsNodes]
  | cons e rest =>
    have := e.nodes_le_weight
    have := elementsNodes_le rest
    simp only [elementsNodes, elementsWeight]
    omega

lemma membersNodes_le (ms : List (Bytes × Value)) : 4 * membersNodes ms ≤ membersWeight ms := by
  cases ms with
  | nil => simp [membersNodes]
  | cons m rest =>
    obtain ⟨key, v⟩ := m
    have := v.nodes_le_weight
    have := membersNodes_le rest
    simp only [membersNodes, membersWeight]
    omega

end

end Value

/-- A variable-length number takes ten bytes at most (source `append_varint`). -/
lemma varint_length (value : UInt64) : (varint value).length ≤ 10 := by
  have loop : ∀ n value, (varintBytes n value).length ≤ n + 1 := by
    intro n
    induction n with
    | zero => simp [varintBytes]
    | succ n ih =>
      intro value
      rw [varintBytes]
      split
      · simp only [List.length_cons]
        have := ih (value >>> 7)
        omega
      · simp
  exact loop 9 value

/-- A written text takes at most its bytes and sixteen more (source `CanonicalWriter::text`). -/
lemma text_length_le (t : Bytes) : (new.text t).bytes.length ≤ 16 + t.length := by
  have := varint_length (UInt64.ofNat t.length)
  unfold CanonicalWriter.text
  split
  · simp only [append, new, List.nil_append, List.cons_append, List.length_cons, List.length_append]
    omega
  · simp [fail, new]

/-- A written key takes at most its bytes and sixteen more (source `CanonicalWriter::field`). -/
lemma field_length_le (key : Bytes) : (new.field key).bytes.length ≤ 16 + key.length := by
  unfold field
  split
  · simp [fail, new]
  · exact text_length_le key

mutual

/-- The weight of a value bounds what is written for it (source `CanonicalWriter::write_value`). -/
lemma length_writeValue_le (v : Value) : (new.writeValue v).bytes.length ≤ v.weight := by
  cases v with
  | null | boolean => simp [writeValue, nullValue, CanonicalWriter.boolean, append, new, Value.weight]
  | integer value =>
    have := varint_length (zigzagEncode value)
    simp only [writeValue, CanonicalWriter.integer, append, new, List.nil_append, List.length_cons,
      Value.weight]
    omega
  | unsigned value =>
    have := varint_length value
    simp only [writeValue, unsignedInteger, append, new, List.nil_append, List.length_cons,
      Value.weight]
    omega
  | real value =>
    simp only [writeValue, CanonicalWriter.real, Value.weight]
    split <;> simp [fail, append, new]
  | text value => exact text_length_le value
  | binary value =>
    have := varint_length (UInt64.ofNat value.length)
    simp only [writeValue, CanonicalWriter.binary, append, new, List.nil_append, List.cons_append,
      List.length_cons, List.length_append, Value.weight]
    omega
  | array elements =>
    have := varint_length (UInt64.ofNat elements.length)
    have := length_writeElements_le elements
    rw [writeValue, writeElements_eq]
    simp only [beginArray, append, andThen, new, List.nil_append, List.cons_append,
      List.length_cons, List.length_append, Value.weight] at *
    omega
  | members ms =>
    have := varint_length (UInt64.ofNat ms.length)
    have := length_writeMembers_le ms
    rw [writeValue, writeMembers_eq]
    simp only [beginObject, append, andThen, new, List.nil_append, List.cons_append,
      List.length_cons, List.length_append, Value.weight] at *
    omega

lemma length_writeElements_le (es : List Value) :
    (new.writeElements es).bytes.length ≤ Value.elementsWeight es := by
  cases es with
  | nil => simp [writeElements, new]
  | cons e rest =>
    have := length_writeValue_le e
    have := length_writeElements_le rest
    rw [writeElements, writeElements_eq]
    simp only [andThen, List.length_append, Value.elementsWeight]
    omega

lemma length_writeMembers_le (ms : List (Bytes × Value)) :
    (new.writeMembers ms).bytes.length ≤ Value.membersWeight ms := by
  cases ms with
  | nil => simp [writeMembers, new]
  | cons m rest =>
    obtain ⟨key, v⟩ := m
    have := field_length_le key
    have := length_writeValue_le v
    have := length_writeMembers_le rest
    rw [writeMembers, writeMembers_eq, writeValue_eq]
    simp only [andThen, List.length_append, Value.membersWeight]
    omega

end

end TransceiverRegistry
