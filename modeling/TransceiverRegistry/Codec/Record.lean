import TransceiverRegistry.Codec.Fields

/-!
# Codecs of records

Port of the `Codec` template of `codec.hpp` and of the record helpers of `codec.cpp`. A lawful codec
says which records its decoder gives back and which ones the reader of a snapshot has room for, and
bounds the weight of what it writes.
-/

namespace TransceiverRegistry

open Lib

/-- How a record is stored (source `Codec`). -/
class Codec (α : Type) where
  encode : α → Value
  decode : Value → Result α

export Codec (encode decode)

/-- The laws of a codec: its decoder answers an encoded record with that record or an error, and
what it writes is canonical. -/
class LawfulCodec (α : Type) [Codec α] where
  /-- The decoder gives the record back. -/
  Decodes : α → Prop
  /-- The reader of a snapshot has room for the record. -/
  Writes : α → Prop
  levels : Nat
  weight : α → Nat
  decode_encode {a b : α} : decode (encode a) = .ok b ↔ Decodes a ∧ b = a
  canonical (a : α) : (encode a).Canonical
  fits {a : α} : Writes a → (encode a).Fits levels
  weight_le (a : α) : (encode a).weight ≤ weight a

export LawfulCodec (Decodes Writes decode_encode)

/-- Decode every element of an array, up to the first one that fails. -/
def decodeEach {α : Type} (decode : Value → Result α) : List Value → Result (List α)
  | [] => .ok []
  | e :: rest => do
    let item ← decode e
    let items ← decodeEach decode rest
    .ok (item :: items)

/-- Read a nested record (source `get_record`). -/
def getRecord {α : Type} [Codec α] (v : Value) (key : String) : Result α := do
  decode (← requireField v key)

/-- Read an array of nested records (source `get_record_array`). -/
def getRecordArray {α : Type} [Codec α] (v : Value) (key : String) : Result (List α) := do
  decodeEach decode (← getArray v key)

/-- Encode an array of nested records (source `encode_record_array`). -/
def encodeRecordArray {α : Type} [Codec α] (values : List α) : Value := .array (values.map encode)

variable {α : Type}

/-- Decoding each of the encoded elements gives them back. -/
lemma decodeEach_eq_ok {f : Value → Result α} {g : α → Value} {Good : α → Prop}
    (each : ∀ a b, f (g a) = .ok b ↔ Good a ∧ b = a) {l r : List α} :
    decodeEach f (l.map g) = .ok r ↔ (∀ a ∈ l, Good a) ∧ r = l := by
  induction l generalizing r with
  | nil => simp [decodeEach, eq_comm]
  | cons a rest ih =>
    simp only [List.map_cons, decodeEach, bind_eq_ok, each, ih, List.mem_cons, forall_eq_or_imp]
    constructor
    · rintro ⟨_, ⟨good, rfl⟩, _, ⟨rest, rfl⟩, e⟩
      cases e
      exact ⟨⟨good, rest⟩, rfl⟩
    · rintro ⟨⟨good, rest⟩, rfl⟩
      exact ⟨_, ⟨good, rfl⟩, _, ⟨rest, rfl⟩, rfl⟩

variable [Codec α] {v : Value} {key : String}

/-- A nested record is read back when its own decoder gives it back (source `get_record`). -/
lemma getRecord_iff {Good : α → Prop} (back : ∀ a b, decode (encode a) = .ok b ↔ Good a ∧ b = a)
    {a b : α} (h : Holds v key (encode a)) : getRecord v key = .ok b ↔ Good a ∧ b = a := by
  rw [getRecord, requireField_eq h]
  exact back a b

/-- An array of nested records is read back when their own decoder gives each of them back
(source `get_record_array`). -/
lemma getRecordArray_iff {Good : α → Prop}
    (back : ∀ a b, decode (encode a) = .ok b ↔ Good a ∧ b = a) {l r : List α}
    (h : Holds v key (encodeRecordArray l)) :
    getRecordArray v key = .ok r ↔ (∀ a ∈ l, Good a) ∧ r = l := by
  rw [getRecordArray, getArray_eq h]
  exact decodeEach_eq_ok back

variable [LawfulCodec α]

/-- A nested record is read back (source `get_record`). -/
lemma getRecord_eq_ok {a b : α} (h : Holds v key (encode a)) :
    getRecord v key = .ok b ↔ Decodes a ∧ b = a :=
  getRecord_iff (fun _ _ => decode_encode) h

/-- An array of nested records is read back (source `get_record_array`). -/
lemma getRecordArray_eq_ok {l r : List α} (h : Holds v key (encodeRecordArray l)) :
    getRecordArray v key = .ok r ↔ (∀ a ∈ l, Decodes a) ∧ r = l :=
  getRecordArray_iff (fun _ _ => decode_encode) h

/-- An array of nested records is canonical (source `encode_record_array`). -/
lemma canonical_encodeRecordArray (l : List α) : (encodeRecordArray l).Canonical := by
  refine Value.elementsCanonical_iff.2 fun e mem => ?_
  obtain ⟨a, _, rfl⟩ := List.mem_map.1 mem
  exact LawfulCodec.canonical a

/-- There is room for an array of nested records (source `encode_record_array`). -/
lemma fits_encodeRecordArray {l : List α} (few : l.length ≤ 1048576)
    (each : ∀ a ∈ l, Writes a) :
    (encodeRecordArray l).Fits (LawfulCodec.levels α + 1) := by
  refine fits_array (by rwa [List.length_map]) fun e mem => ?_
  obtain ⟨a, mem', rfl⟩ := List.mem_map.1 mem
  exact LawfulCodec.fits (each a mem')

/-- The weight of a list of records. -/
def weights (l : List α) : Nat := (l.map LawfulCodec.weight).sum

/-- The weight of an array of nested records (source `encode_record_array`). -/
lemma weight_encodeRecordArray_le (l : List α) :
    (encodeRecordArray l).weight ≤ 16 + weights l := by
  rw [encodeRecordArray, Value.weight, Value.elementsWeight_eq, List.map_map]
  exact Nat.add_le_add_left (List.sum_le_sum fun a _ => LawfulCodec.weight_le a) 16

end TransceiverRegistry
