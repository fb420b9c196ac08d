import TransceiverRegistry.Core.Base
import TransceiverRegistry.Lib.Binary64
import TransceiverRegistry.Lib.Sort

/-!
# Canonical values

Port of the `Value` class, of `is_valid_utf8` and of the limits of `canonical.hpp`. The members of
an object are kept in the byte order of their keys by every function that builds an object.
-/

namespace TransceiverRegistry

open Lib

/-- Byte order of texts (source `compare_bytes`). -/
def compareBytes (lhs rhs : Bytes) : Ordering := compare lhs rhs

instance : Std.TransCmp compareBytes := inferInstanceAs (Std.TransCmp (compare (α := Bytes)))

instance : Std.LawfulEqCmp compareBytes :=
  inferInstanceAs (Std.LawfulEqCmp (compare (α := Bytes)))

/-- The number of continuation bytes a leading byte asks for, and the bounds of the first one
(source `is_valid_utf8`). -/
def utf8Lead (byte : UInt8) : Option (Nat × UInt8 × UInt8) :=
  if 0xc2 ≤ byte ∧ byte ≤ 0xdf then some (1, 0x80, 0xbf)
  else if byte = 0xe0 then some (2, 0xa0, 0xbf)
  else if 0xe1 ≤ byte ∧ byte ≤ 0xec then some (2, 0x80, 0xbf)
  else if byte = 0xed then some (2, 0x80, 0x9f)
  else if 0xee ≤ byte ∧ byte ≤ 0xef then some (2, 0x80, 0xbf)
  else if byte = 0xf0 then some (3, 0x90, 0xbf)
  else if 0xf1 ≤ byte ∧ byte ≤ 0xf3 then some (3, 0x80, 0xbf)
  else if byte = 0xf4 then some (3, 0x80, 0x8f)
  else none

/-- The loop of the validator, with `extra` continuation bytes still expected, the first of them
between `lower` and `upper` (source `is_valid_utf8`). -/
def utf8From : (extra : Nat) → (lower upper : UInt8) → Bytes → Bool
  | 0, _, _, [] => true
  | _ + 1, _, _, [] => false
  | 0, _, _, byte :: rest =>
    if byte < 0x80 then utf8From 0 0x80 0xbf rest
    else match utf8Lead byte with
      | none => false
      | some (extra, lower, upper) => utf8From extra lower upper rest
  | extra + 1, lower, upper, byte :: rest =>
    if byte < lower ∨ upper < byte then false else utf8From extra 0x80 0xbf rest

/-- Well-formedness of a text (source `is_valid_utf8`). -/
def isValidUtf8 (t : Bytes) : Bool := utf8From 0 0x80 0xbf t

/-- A text of seven-bit bytes is well formed (source `is_valid_utf8`). -/
lemma isValidUtf8_of_ascii {t : Bytes} (ascii : ∀ b ∈ t, b < 0x80) : isValidUtf8 t = true := by
  unfold isValidUtf8
  induction t with
  | nil => rfl
  | cons b rest ih =>
    rw [utf8From, if_pos (ascii b (by simp))]
    exact ih fun c hc => ascii c (by simp [hc])

/-- A key text is well formed (source `TextKey`). -/
lemma IsKeyText.isValidUtf8 {t : Bytes} (key : IsKeyText t) : isValidUtf8 t = true :=
  isValidUtf8_of_ascii fun b hb => by
    have := (key.2.2 b hb).2
    rw [UInt8.le_iff_toNat_le] at this
    rw [UInt8.lt_iff_toNat_lt]
    exact Nat.lt_of_le_of_lt this (by decide)

/-- Every key, the empty one included, is well formed (source `TextKey`). -/
lemma TextKey.isValidUtf8 {tag : KeyTag} (key : TextKey tag) :
    TransceiverRegistry.isValidUtf8 key.str = true := by
  rcases key.wellFormed with h | h
  · rw [h]; rfl
  · exact h.isValidUtf8

/-- Bounds on a document (source `CanonicalLimits`). -/
structure CanonicalLimits where
  maxDocumentBytes : UInt64
  maxStringBytes : UInt64
  maxBinaryBytes : UInt64
  maxElements : UInt64
  maxObjectFields : UInt64
  maxDepth : UInt64
  maxNodes : UInt64

/-- The limits of a snapshot record (source `CanonicalLimits::snapshot`). -/
def CanonicalLimits.snapshot : CanonicalLimits where
  maxDocumentBytes := 64 * 1048576
  maxStringBytes := 64 * 1024
  maxBinaryBytes := 1048576
  maxElements := 1048576
  maxObjectFields := 65536
  maxDepth := 24
  maxNodes := 4 * 1048576

/-- The limits of a request, and of its answer (source `CanonicalLimits::request`). -/
def CanonicalLimits.request : CanonicalLimits where
  maxDocumentBytes := 256 * 1024
  maxStringBytes := 16 * 1024
  maxBinaryBytes := 64 * 1024
  maxElements := 8192
  maxObjectFields := 512
  maxDepth := 12
  maxNodes := 16384

/-- A document (source `Value`). -/
inductive Value where
  | null
  | boolean (value : Bool)
  | integer (value : Int64)
  | unsigned (value : UInt64)
  | real (value : Binary64)
  | text (value : Bytes)
  | binary (value : Bytes)
  | array (elements : List Value)
  | members (members : List (Bytes × Value))

namespace Value

/-- The order of object members (source `compare_bytes` on `Member::key`). -/
def keyBefore (lhs rhs : Bytes × Value) : Bool := (compareBytes lhs.1 rhs.1).isLT

/-- An object with the first member given for each key, in key order (source `Value::object`). -/
def object (ms : List (Bytes × Value)) : Value :=
  .members ((stableSort keyBefore ms).destutter fun lhs rhs => lhs.1 ≠ rhs.1)

/-- The members from the first one whose key is not below `key` (source `std::lower_bound`). -/
def lowerBound (ms : List (Bytes × Value)) (key : Bytes) : List (Bytes × Value) :=
  ms.dropWhile fun m => (compareBytes m.1 key).isLT

/-- Look up a member of an object (source `Value::find`). -/
def find (v : Value) (key : Bytes) : Option Value :=
  match v with
  | .members ms =>
    match lowerBound ms key with
    | [] => none
    | m :: _ => if compareBytes m.1 key ≠ .eq then none else some m.2
  | _ => none

/-- Replace a member of an object, or add one, and tell whether that was done (source
`Value::set`). -/
def set (v : Value) (key : Bytes) (value : Value) : Value × Bool :=
  match v with
  | .members ms =>
    if key = [] then (v, false)
    else
      let before := ms.takeWhile fun m => (compareBytes m.1 key).isLT
      match lowerBound ms key with
      | [] => (.members (before ++ [(key, value)]), true)
      | m :: rest =>
        if compareBytes m.1 key = .eq then (.members (before ++ (m.1, value) :: rest), true)
        else (.members (before ++ (key, value) :: m :: rest), true)
  | _ => (v, false)

/-- Add a member to an object that must not have its key yet (source `Value::set_unique`). -/
def setUnique (v : Value) (key : Bytes) (value : Value) : Result Value :=
  match v with
  | .members ms =>
    if key = [] then
      .error (makeError .malformed "canonical object member key must not be empty")
    else
      let before := ms.takeWhile fun m => (compareBytes m.1 key).isLT
      match lowerBound ms key with
      | [] => .ok (.members (before ++ [(key, value)]))
      | m :: rest =>
        if compareBytes m.1 key = .eq then
          .error (makeError .malformed "duplicate object key in canonical document")
        else .ok (.members (before ++ (key, value) :: m :: rest))
  | _ =>
    .error (makeError .malformed "canonical object member inserted into a non-object value")

mutual

/-- Equality of documents (source `operator==`). -/
def equal : (lhs rhs : Value) → Bool
  | .null, .null => true
  | .boolean lhs, .boolean rhs => lhs == rhs
  | .integer lhs, .integer rhs => lhs == rhs
  | .unsigned lhs, .unsigned rhs => lhs == rhs
  | .real lhs, .real rhs => lhs.bits == rhs.bits
  | .text lhs, .text rhs => lhs == rhs
  | .binary lhs, .binary rhs => lhs == rhs
  | .array lhs, .array rhs => elementsEqual lhs rhs
  | .members lhs, .members rhs => membersEqual lhs rhs
  | _, _ => false

/-- Equality of the elements of two arrays (source `operator==`). -/
def elementsEqual : (lhs rhs : List Value) → Bool
  | [], [] => true
  | e :: es, e' :: es' => equal e e' && elementsEqual es es'
  | _, _ => false

/-- Equality of the members of two objects (source `operator==`). -/
def membersEqual : (lhs rhs : List (Bytes × Value)) → Bool
  | [], [] => true
  | (key, v) :: ms, (key', v') :: ms' => (key == key' && equal v v') && membersEqual ms ms'
  | _, _ => false

end

end Value

end TransceiverRegistry
