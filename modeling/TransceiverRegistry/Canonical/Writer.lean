import TransceiverRegistry.Canonical.Value
import TransceiverRegistry.Core.Digest
import TransceiverRegistry.Lib.LittleEndian

/-!
# The canonical writer

Port of `CanonicalWriter`. A value without a canonical form is skipped and sets the `failed` flag;
every other byte is still written.
-/

namespace TransceiverRegistry

open Lib

/-- The low seven bits first, at most `n + 1` bytes (source `append_varint`, the loop). -/
def varintBytes : Nat → UInt64 → Bytes
  | 0, value => [value.toUInt8]
  | n + 1, value =>
    if 0x80 ≤ value then ((value &&& 0x7f) ||| 0x80).toUInt8 :: varintBytes n (value >>> 7)
    else [value.toUInt8]

/-- The variable-length encoding of a number; 64 bits take ten groups at most
(source `append_varint`). -/
def varint (value : UInt64) : Bytes := varintBytes 9 value

/-- Interleave the negative numbers with the others (source `zigzag_encode`). -/
def zigzagEncode (value : Int64) : UInt64 := (value.toUInt64 <<< 1) ^^^ (value >>> 63).toUInt64

/-- Undo the interleaving (source `zigzag_decode`). -/
def zigzagDecode (value : UInt64) : Int64 := ((value >>> 1) ^^^ (~~~(value &&& 1) + 1)).toInt64

/-- A document being written (source `CanonicalWriter`). -/
structure CanonicalWriter where
  bytes : Bytes
  failed : Bool

namespace CanonicalWriter

/-- An empty document (source `CanonicalWriter::CanonicalWriter`). -/
def new : CanonicalWriter := ⟨[], false⟩

/-- Write bytes as they are. -/
def append (w : CanonicalWriter) (bytes : Bytes) : CanonicalWriter := ⟨w.bytes ++ bytes, w.failed⟩

/-- Skip a value without a canonical form. -/
def fail (w : CanonicalWriter) : CanonicalWriter := ⟨w.bytes, true⟩

/-- Write a null (source `CanonicalWriter::null_value`). -/
def nullValue (w : CanonicalWriter) : CanonicalWriter := w.append [0]

/-- Write a boolean (source `CanonicalWriter::boolean`). -/
def boolean (w : CanonicalWriter) (value : Bool) : CanonicalWriter :=
  w.append [if value then 2 else 1]

/-- Write a signed number (source `CanonicalWriter::integer`). -/
def integer (w : CanonicalWriter) (value : Int64) : CanonicalWriter :=
  w.append (3 :: varint (zigzagEncode value))

/-- Write an unsigned number (source `CanonicalWriter::unsigned_integer`). -/
def unsignedInteger (w : CanonicalWriter) (value : UInt64) : CanonicalWriter :=
  w.append (9 :: varint value)

/-- Write a real; a NaN has no canonical form (source `CanonicalWriter::real`). -/
def real (w : CanonicalWriter) (value : Binary64) : CanonicalWriter :=
  if value.isNaN then w.fail else w.append (4 :: littleEndian 8 value.bits.toNat)

/-- Write a text; malformed UTF-8 has no canonical form (source `CanonicalWriter::text`). -/
def text (w : CanonicalWriter) (value : Bytes) : CanonicalWriter :=
  if isValidUtf8 value then w.append (5 :: varint (UInt64.ofNat value.length) ++ value) else w.fail

/-- Write raw bytes (source `CanonicalWriter::binary`). -/
def binary (w : CanonicalWriter) (value : Bytes) : CanonicalWriter :=
  w.append (6 :: varint (UInt64.ofNat value.length) ++ value)

/-- Open an array (source `CanonicalWriter::begin_array`). -/
def beginArray (w : CanonicalWriter) (count : Nat) : CanonicalWriter :=
  w.append (7 :: varint (UInt64.ofNat count))

/-- Open an object (source `CanonicalWriter::begin_object`). -/
def beginObject (w : CanonicalWriter) (count : Nat) : CanonicalWriter :=
  w.append (8 :: varint (UInt64.ofNat count))

/-- Write a member key; an empty key has no canonical form (source `CanonicalWriter::field`). -/
def field (w : CanonicalWriter) (key : Bytes) : CanonicalWriter :=
  if key = [] then w.fail else w.text key

mutual

/-- Write a whole value (source `CanonicalWriter::write_value`). -/
def writeValue (w : CanonicalWriter) : Value → CanonicalWriter
  | .null => w.nullValue
  | .boolean value => w.boolean value
  | .integer value => w.integer value
  | .unsigned value => w.unsignedInteger value
  | .real value => w.real value
  | .text value => w.text value
  | .binary value => w.binary value
  | .array elements => writeElements (w.beginArray elements.length) elements
  | .members ms => writeMembers (w.beginObject ms.length) ms

/-- Write the elements of an array (source `CanonicalWriter::write_value`, the array loop). -/
def writeElements (w : CanonicalWriter) : List Value → CanonicalWriter
  | [] => w
  | element :: rest => writeElements (w.writeValue element) rest

/-- Write the members of an object (source `CanonicalWriter::write_value`, the object loop). -/
def writeMembers (w : CanonicalWriter) : List (Bytes × Value) → CanonicalWriter
  | [] => w
  | (key, value) :: rest => writeMembers ((w.field key).writeValue value) rest

end

/-- Write what another writer wrote after what this one wrote. -/
def andThen (w u : CanonicalWriter) : CanonicalWriter := ⟨w.bytes ++ u.bytes, w.failed || u.failed⟩

lemma andThen_assoc (w u t : CanonicalWriter) :
    (w.andThen u).andThen t = w.andThen (u.andThen t) := by
  simp [andThen, Bool.or_assoc]

lemma append_eq (w : CanonicalWriter) (bytes : Bytes) : w.append bytes = w.andThen (new.append bytes) := by
  simp [andThen, append, new]

lemma text_eq (w : CanonicalWriter) (value : Bytes) : w.text value = w.andThen (new.text value) := by
  unfold text
  split
  · rw [append_eq]
  · simp [andThen, fail, new]

lemma field_eq (w : CanonicalWriter) (key : Bytes) : w.field key = w.andThen (new.field key) := by
  unfold field
  split
  · simp [andThen, fail, new]
  · rw [text_eq]

mutual

/-- What is written for a value does not depend on what was written before it
(source `CanonicalWriter::write_value`). -/
lemma writeValue_eq (w : CanonicalWriter) (v : Value) :
    w.writeValue v = w.andThen (new.writeValue v) := by
  cases v with
  | null | boolean | integer | unsigned | binary =>
    simp only [writeValue, nullValue, boolean, integer, unsignedInteger, binary]
    rw [append_eq]
  | real value =>
    simp only [writeValue, real]
    split
    · simp [andThen, fail, new]
    · rw [append_eq]
  | text value =>
    simp only [writeValue]
    rw [text_eq]
  | array elements =>
    simp only [writeValue, beginArray]
    rw [writeElements_eq, append_eq, andThen_assoc, ← writeElements_eq]
  | members ms =>
    simp only [writeValue, beginObject]
    rw [writeMembers_eq, append_eq, andThen_assoc, ← writeMembers_eq]

/-- What is written for the elements does not depend on what was written before them. -/
lemma writeElements_eq (w : CanonicalWriter) (es : List Value) :
    w.writeElements es = w.andThen (new.writeElements es) := by
  cases es with
  | nil => simp [writeElements, andThen, new]
  | cons e rest =>
    simp only [writeElements]
    rw [writeElements_eq, writeValue_eq, andThen_assoc, ← writeElements_eq]

/-- What is written for the members does not depend on what was written before them. -/
lemma writeMembers_eq (w : CanonicalWriter) (ms : List (Bytes × Value)) :
    w.writeMembers ms = w.andThen (new.writeMembers ms) := by
  cases ms with
  | nil => simp [writeMembers, andThen, new]
  | cons m rest =>
    obtain ⟨key, v⟩ := m
    simp only [writeMembers]
    rw [writeMembers_eq ((w.field key).writeValue v), writeValue_eq (w.field key), field_eq,
      writeMembers_eq ((new.field key).writeValue v), writeValue_eq (new.field key)]
    simp only [andThen_assoc]

end

/-- The identity of what was written; a failed writer has none
(source `CanonicalWriter::digest`). -/
def digest (w : CanonicalWriter) : Digest := if w.failed then Digest.zero else sha256 w.bytes

end CanonicalWriter

end TransceiverRegistry
