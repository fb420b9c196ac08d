import TransceiverRegistry.Canonical.Acceptance
import TransceiverRegistry.Canonical.Members
import TransceiverRegistry.Core.Taxonomy
import Mathlib.Algebra.Order.BigOperators.Group.List
import Mathlib.Algebra.Order.Group.Nat

/-!
# Fields of a document

Port of `value_fields.hpp` and of the field helpers of `codec.cpp`. Every accessor checks presence
and type, and the lemmas say what each of them answers on a field that an encoder wrote.
-/

namespace TransceiverRegistry

open Lib

/-- An object from its members (source `codec::object`). -/
def codecObject (ms : List (String × Value)) : Value :=
  .object (ms.map fun m => (text m.1, m.2))

/-- A number as an integer value (source `Value::integer` of a `static_cast<std::int64_t>`). -/
def integerOf (n : Nat) : Value := .integer (Int64.ofNat n)

/-- The value is an object (source `Value::is_object`). -/
def Value.isObject : Value → Bool
  | .members _ => true
  | _ => false

/-- A number as a real (source `Value::number_as_double`). -/
def Value.numberAsDouble : Value → Option Binary64
  | .integer value => some (.ofInt value.toInt)
  | .unsigned value => some (.ofInt value.toNat)
  | .real value => some value
  | _ => none

/-- An error about one field. -/
def fieldError (key : String) (rest : String) : Error :=
  ⟨.malformed, text "field " ++ text key ++ text rest⟩

section Accessors

variable (v : Value) (key : String)

/-- The value must be an object (source `as_object`). -/
def asObject (what : String) : Result Value := do
  refuseIf (v.isObject = false) ⟨.malformed, text what ++ text " must be a canonical object"⟩
  .ok v

/-- The field must be there (source `require_field`). -/
def requireField : Result Value := do
  refuseIf (v.isObject = false) (makeError .malformed "record must be a canonical object")
  orRefuse (v.find (text key)) ⟨.malformed, text "missing required field " ++ text key⟩

/-- Read a signed field (source `get_integer`). -/
def getInteger : Result Int64 := do
  match ← requireField v key with
  | .integer value => .ok value
  | _ => .error (fieldError key " must be an integer")

/-- Read a signed field that is not negative (source `get_unsigned`). -/
def getUnsigned : Result UInt64 := do
  let value ← getInteger v key
  refuseIf (value < 0) (fieldError key " must not be negative")
  .ok value.toUInt64

/-- Read an unsigned field (source `get_unsigned_field`). -/
def getUnsignedField : Result UInt64 := do
  match ← requireField v key with
  | .unsigned value => .ok value
  | .integer value => do
    refuseIf (value < 0) (fieldError key " must not be negative")
    .ok value.toUInt64
  | _ => .error (fieldError key " must be an unsigned integer")

/-- Read a boolean field (source `get_boolean`). -/
def getBoolean : Result Bool := do
  match ← requireField v key with
  | .boolean value => .ok value
  | _ => .error (fieldError key " must be a boolean")

/-- Read a numeric field (source `get_real`). -/
def getReal : Result Binary64 := do
  orRefuse (← requireField v key).numberAsDouble (fieldError key " must be numeric")

/-- Read a text field (source `get_text`). -/
def getText : Result Bytes := do
  match ← requireField v key with
  | .text value => .ok value
  | _ => .error (fieldError key " must be text")

/-- Read an array field (source `get_array`). -/
def getArray : Result (List Value) := do
  match ← requireField v key with
  | .array elements => .ok elements
  | _ => .error (fieldError key " must be an array")

/-- Read a signed field or fall back (source `get_integer_or`). -/
def getIntegerOr (fallback : Int64) : Int64 := (getInteger v key).toOption.getD fallback

/-- Read a signed field that is not negative or fall back (source `get_unsigned_or`). -/
def getUnsignedOr (fallback : UInt64) : UInt64 := (getUnsigned v key).toOption.getD fallback

/-- Read a boolean field or fall back (source `get_boolean_or`). -/
def getBooleanOr (fallback : Bool) : Bool := (getBoolean v key).toOption.getD fallback

/-- Read a text field or fall back (source `get_text_or`). -/
def getTextOr (fallback : Bytes) : Bytes := (getText v key).toOption.getD fallback

/-- Read an array field, empty when it is absent (source `get_array_or` and the loops over it). -/
def getArrayOr : List Value := (getArray v key).toOption.getD []

/-- Read an enumeration (source `get_enum`, `get_enum_field`). -/
def getEnum {α : Type} [WireEnum α] (what : String) : Result α := do
  let raw ← getInteger v key
  refuseIf (raw < 0 ∨ Int64.ofNat (WireEnum.last α) < raw)
    ⟨.malformed, text what ++ text " is not a known value"⟩
  .ok (WireEnum.ofCode raw.toInt.toNat)

/-- Read a 16-bit number (source `get_u16`). -/
def getU16 : Result UInt16 := do
  let raw ← getUnsigned v key
  refuseIf (0xFFFF < raw) (fieldError key " is out of range")
  .ok raw.toUInt16

/-- Read a 32-bit number (source `get_u32`). -/
def getU32 : Result UInt32 := do
  let raw ← getUnsigned v key
  refuseIf (0xFFFFFFFF < raw) (fieldError key " is out of range")
  .ok raw.toUInt32

/-- Read a signed 32-bit number (source `get_i32`). -/
def getI32 : Result Int32 := do
  let raw ← getInteger v key
  refuseIf (raw < -2147483648 ∨ 2147483647 < raw) (fieldError key " is out of range")
  .ok raw.toInt32

/-- Read a measurement (source `get_finite_real`). -/
def getFiniteReal : Result Binary64 := do
  let raw ← getReal v key
  refuseIf (raw.isFinite = false) (fieldError key " must be finite")
  .ok raw

/-- Read a digest (source `get_digest_field`). -/
def getDigestField : Result Digest := do
  let t ← getText v key
  orRefuse (Digest.fromHex t).toOption (fieldError key " must be SHA-256 hex text")

/-- Read a key, which may be the empty default (source `get_key`). -/
def getKey {tag : KeyTag} (what : String) : Result (TextKey tag) := do
  let t ← getText v key
  if t = [] then .ok .none else TextKey.parse t (text what)

end Accessors

/-- The keys of an object can be told apart and written. -/
def keysOk (names : List String) : Bool :=
  let keys := names.map text
  decide keys.Nodup && keys.all fun key =>
    key ≠ [] && decide (key.length ≤ 32) && key.all fun b => decide (b < 0x80)

/-- The value is an object with this field. -/
structure Holds (v : Value) (key : String) (x : Value) : Prop where
  object : v.isObject = true
  found : v.find (text key) = some x

section Objects

/-- A member is found in an object with ordered keys (source `Value::find`). -/
lemma find_members {ms : List (Bytes × Value)} (ordered : Value.KeysOrdered ms) {key : Bytes}
    {x : Value} (mem : (key, x) ∈ ms) : (Value.members ms).find key = some x := by
  rw [Value.find_members_eq_lookup ordered]
  exact (Ascending.mem_iff ordered).1 mem

/-- An object of distinct keys has all of its members, in key order (source `Value::object`). -/
lemma object_of_nodup {ms : List (Bytes × Value)} (nodup : (ms.map Prod.fst).Nodup) :
    ∃ sorted, Value.object ms = .members sorted ∧ sorted.Perm ms ∧ Value.KeysOrdered sorted := by
  have perm := stableSort_perm Value.keyBefore ms
  have sorted : SortedBy Value.keyBefore (stableSort Value.keyBefore ms) :=
    stableSort_sorted (strictWeakOn_compare compareBytes Prod.fst ms)
  have distinct : (stableSort Value.keyBefore ms).Pairwise fun lhs rhs => lhs.1 ≠ rhs.1 :=
    List.pairwise_map.1 ((perm.map Prod.fst).nodup_iff.2 nodup)
  refine ⟨_, ?_, perm, ?_⟩
  · rw [Value.object, List.destutter_of_isChain _ _ distinct.isChain]
  · refine (sorted.and distinct).imp ?_
    rintro a b ⟨notAfter, ne⟩
    exact isLT_of_not_isLT (Bool.not_eq_true _ ▸ notAfter) ne.symm

variable {ms : List (String × Value)}

lemma nodup_of_keysOk (ok : keysOk (ms.map Prod.fst) = true) :
    ((ms.map fun m => (text m.1, m.2)).map Prod.fst).Nodup := by
  simp only [keysOk, Bool.and_eq_true, decide_eq_true_eq, List.map_map] at ok
  rw [List.map_map]
  exact ok.1

lemma key_of_keysOk (ok : keysOk (ms.map Prod.fst) = true) {m : String × Value} (mem : m ∈ ms) :
    text m.1 ≠ [] ∧ (text m.1).length ≤ 32 ∧ isValidUtf8 (text m.1) = true := by
  simp only [keysOk, Bool.and_eq_true, List.all_eq_true, List.map_map] at ok
  have key := ok.2 (text m.1) (List.mem_map.2 ⟨m, mem, rfl⟩)
  simp only [decide_eq_true_eq] at key
  exact ⟨key.1.1, key.1.2, isValidUtf8_of_ascii key.2⟩

/-- A field of an encoded object is found (source `codec::object`). -/
lemma holds_codecObject (ok : keysOk (ms.map Prod.fst) = true) {key : String} {x : Value}
    (mem : ms.lookup key = some x) : Holds (codecObject ms) key x := by
  obtain ⟨sorted, e, perm, ordered⟩ := object_of_nodup (nodup_of_keysOk ok)
  have mem : (key, x) ∈ ms := by
    obtain ⟨before, after, e, _⟩ := List.lookup_eq_some_iff.1 mem
    simp [e]
  have mem : (text key, x) ∈ sorted := perm.mem_iff.2 (List.mem_map.2 ⟨_, mem, rfl⟩)
  unfold codecObject
  rw [e]
  exact ⟨rfl, find_members ordered mem⟩

/-- An encoded object is canonical when its members are (source `codec::object`). -/
lemma canonical_codecObject (ok : keysOk (ms.map Prod.fst) = true) (inner : ∀ m ∈ ms, m.2.Canonical) :
    (codecObject ms).Canonical := by
  obtain ⟨sorted, e, perm, ordered⟩ := object_of_nodup (nodup_of_keysOk ok)
  unfold codecObject
  rw [e]
  refine ⟨ordered, Value.membersCanonical_iff.2 fun m mem => ?_⟩
  obtain ⟨given, mem', rfl⟩ := List.mem_map.1 (perm.mem_iff.1 mem)
  exact inner given mem'

/-- The weight of an encoded object is that of its members (source `codec::object`). -/
lemma weight_codecObject_le (ok : keysOk (ms.map Prod.fst) = true) :
    (codecObject ms).weight ≤ 16 + (ms.map fun m => 48 + m.2.weight).sum := by
  obtain ⟨sorted, e, perm, ordered⟩ := object_of_nodup (nodup_of_keysOk ok)
  unfold codecObject
  rw [e, Value.weight, Value.membersWeight_eq,
    List.Perm.sum_nat (perm.map fun m => 16 + m.1.length + m.2.weight), List.map_map]
  refine Nat.add_le_add_left (List.sum_le_sum fun m mem => ?_) 16
  obtain ⟨_, short, _⟩ := key_of_keysOk ok mem
  simp only [Function.comp]
  omega

end Objects

/-- A document the reader of a snapshot has room for, up to its length
(source `CanonicalLimits::snapshot`). -/
structure Value.Fits (levels : Nat) (v : Value) : Prop where
  within : v.Within .snapshot
  height : v.height ≤ levels

section Fits

variable {levels : Nat}

/-- What fits in some levels fits in more of them. -/
lemma Value.Fits.mono {levels' : Nat} {v : Value} (h : v.Fits levels) (le : levels ≤ levels') :
    v.Fits levels' := ⟨h.within, h.height.trans le⟩

@[simp] lemma fits_integerOf {n : Nat} : (integerOf n).Fits (levels + 1) :=
  ⟨trivial, by simp [integerOf, Value.height]⟩

@[simp] lemma fits_integer {value : Int64} : (Value.integer value).Fits (levels + 1) :=
  ⟨trivial, by simp [Value.height]⟩

@[simp] lemma fits_unsigned {value : UInt64} : (Value.unsigned value).Fits (levels + 1) :=
  ⟨trivial, by simp [Value.height]⟩

@[simp] lemma fits_boolean {value : Bool} : (Value.boolean value).Fits (levels + 1) :=
  ⟨trivial, by simp [Value.height]⟩

@[simp] lemma fits_real {value : Binary64} :
    (Value.real value).Fits (levels + 1) ↔ value.isNaN = false :=
  ⟨fun h => h.within, fun h => ⟨h, by simp [Value.height]⟩⟩

/-- A text of a snapshot: well formed, and within the limit of the reader
(source `CanonicalLimits::snapshot`). -/
structure TextFits (t : Bytes) : Prop where
  valid : isValidUtf8 t = true
  short : t.length ≤ 64 * 1024

instance (t : Bytes) : Decidable (TextFits t) :=
  decidable_of_iff (isValidUtf8 t = true ∧ t.length ≤ 64 * 1024) ⟨fun h => ⟨h.1, h.2⟩,
    fun h => ⟨h.valid, h.short⟩⟩

@[simp] lemma fits_text {t : Bytes} : (Value.text t).Fits (levels + 1) ↔ TextFits t :=
  ⟨fun h => ⟨h.within.1, h.within.2⟩, fun h => ⟨⟨h.valid, h.short⟩, by simp [Value.height]⟩⟩

/-- A key has room in a snapshot (source `kMaxKeyBytes`). -/
lemma TextKey.textFits {tag : KeyTag} (key : TextKey tag) : TextFits key.str := by
  refine ⟨key.isValidUtf8, ?_⟩
  rcases key.wellFormed with empty | keyText
  · rw [empty]
    decide
  · exact keyText.2.1.trans (by decide)

/-- An array of a snapshot has room for its elements (source `CanonicalLimits::snapshot`). -/
lemma fits_array {es : List Value} (few : es.length ≤ 1048576)
    (inner : ∀ e ∈ es, e.Fits levels) : (Value.array es).Fits (levels + 1) := by
  refine ⟨⟨few, Value.elementsWithin_iff.2 fun e mem => (inner e mem).within⟩, ?_⟩
  have := Value.elementsHeight_le.2 fun e mem => (inner e mem).height
  simp only [Value.height]
  omega

/-- An encoded object of a snapshot has room for its members (source `codec::object`). -/
lemma fits_codecObject {ms : List (String × Value)} (ok : keysOk (ms.map Prod.fst) = true)
    (few : ms.length ≤ 65536) (inner : ∀ m ∈ ms, m.2.Fits levels) :
    (codecObject ms).Fits (levels + 1) := by
  obtain ⟨sorted, e, perm, ordered⟩ := object_of_nodup (nodup_of_keysOk ok)
  have member : ∀ m ∈ sorted, ∃ m' ∈ ms, (text m'.1, m'.2) = m := fun m mem =>
    List.mem_map.1 (perm.mem_iff.1 mem)
  unfold codecObject
  rw [e]
  refine ⟨⟨?_, ordered, Value.membersWithin_iff.2 fun m mem => ?_⟩, ?_⟩
  · have := perm.length_eq
    rw [List.length_map] at this
    rw [this]
    exact few
  · obtain ⟨given, mem', rfl⟩ := member m mem
    obtain ⟨key_ne, short, valid⟩ := key_of_keysOk ok mem'
    exact ⟨⟨key_ne, valid, short.trans (by decide)⟩, (inner given mem').within⟩
  · have : Value.membersHeight sorted ≤ levels := Value.membersHeight_le.2 fun m mem => by
      obtain ⟨given, mem', rfl⟩ := member m mem
      exact (inner given mem').height
    simp only [Value.height]
    omega

end Fits

section Answers

variable {v : Value} {key : String}

/-- A number below 2^63 keeps its value as an integer (source `static_cast<std::int64_t>`). -/
lemma toInt_ofNat_of_lt {n : Nat} (small : n < 2 ^ 63) : (Int64.ofNat n).toInt = n := by
  rw [Int64.toInt_ofNat', Int.bmod_eq_of_le (by omega) (by simp [Int64.size]; omega)]

/-- A number from 2^63 on becomes a negative integer (source `static_cast<std::int64_t>`). -/
lemma ofNat_lt_zero_iff {n : Nat} (small : n < 2 ^ 64) : Int64.ofNat n < 0 ↔ 2 ^ 63 ≤ n := by
  rw [Int64.lt_iff_toInt_lt, Int64.toInt_ofNat', Int.bmod_def]
  simp only [Int64.size, Int64.toInt_zero]
  split <;> omega

lemma asObject_eq {what : String} (object : v.isObject = true) : asObject v what = .ok v := by
  simp [asObject, object, refuseIf, bind, Except.bind]

lemma requireField_eq {x : Value} (h : Holds v key x) : requireField v key = .ok x := by
  simp [requireField, h.object, h.found, refuseIf, orRefuse, bind, Except.bind]

lemma getInteger_eq {value : Int64} (h : Holds v key (.integer value)) :
    getInteger v key = .ok value := by
  simp [getInteger, requireField_eq h, bind, Except.bind]

lemma getBoolean_eq {value : Bool} (h : Holds v key (.boolean value)) :
    getBoolean v key = .ok value := by
  simp [getBoolean, requireField_eq h, bind, Except.bind]

lemma getText_eq {value : Bytes} (h : Holds v key (.text value)) :
    getText v key = .ok value := by
  simp [getText, requireField_eq h, bind, Except.bind]

lemma getArray_eq {es : List Value} (h : Holds v key (.array es)) :
    getArray v key = .ok es := by
  simp [getArray, requireField_eq h, bind, Except.bind]

lemma getReal_eq {value : Binary64} (h : Holds v key (.real value)) :
    getReal v key = .ok value := by
  simp [getReal, requireField_eq h, Value.numberAsDouble, orRefuse, bind, Except.bind]

lemma getUnsignedField_eq {value : UInt64} (h : Holds v key (.unsigned value)) :
    getUnsignedField v key = .ok value := by
  simp [getUnsignedField, requireField_eq h, bind, Except.bind]

/-- A number is read back when it is below 2^63 (source `get_unsigned`). -/
lemma getUnsigned_eq_ok {n : Nat} {read : UInt64} (small : n < 2 ^ 64)
    (h : Holds v key (integerOf n)) :
    getUnsigned v key = .ok read ↔ n < 2 ^ 63 ∧ read = UInt64.ofNat n := by
  rw [getUnsigned, getInteger_eq h]
  change (refuseIf _ _ >>= _) = _ ↔ _
  rw [refuseIf_bind_eq_ok, ofNat_lt_zero_iff small, Nat.not_le, Int64.toUInt64_ofNat',
    Except.ok.injEq, @eq_comm _ read]

/-- A counter is read back when it is below 2^63 (source `get_unsigned`). -/
lemma getUnsigned_counter {value read : UInt64} (h : Holds v key (integerOf value.toNat)) :
    getUnsigned v key = .ok read ↔ value.toNat < 2 ^ 63 ∧ read = value := by
  rw [getUnsigned_eq_ok value.toNat_lt h, UInt64.ofNat_toNat]

/-- A smaller number is always read back (source `get_unsigned`). -/
lemma getUnsigned_eq {n : Nat} (small : n < 2 ^ 63) (h : Holds v key (integerOf n)) :
    getUnsigned v key = .ok (UInt64.ofNat n) :=
  (getUnsigned_eq_ok (by omega) h).2 ⟨small, rfl⟩

/-- A counter that does not fit is replaced (source `get_unsigned_or`). -/
lemma getUnsignedOr_eq {value fallback : UInt64} (h : Holds v key (integerOf value.toNat)) :
    getUnsignedOr v key fallback = if value.toNat < 2 ^ 63 then value else fallback := by
  unfold getUnsignedOr
  split
  · rename_i small
    rw [(getUnsigned_counter h).2 ⟨small, rfl⟩]
    rfl
  · rename_i large
    cases read : getUnsigned v key with
    | ok value' => exact absurd ((getUnsigned_counter h).1 read).1 large
    | error e => rfl

lemma getU16_eq {value : UInt16} (h : Holds v key (integerOf value.toNat)) :
    getU16 v key = .ok value := by
  have small := value.toNat_lt
  have fits : ¬ 0xFFFF < UInt64.ofNat value.toNat := by
    rw [UInt64.lt_iff_toNat_lt, UInt64.toNat_ofNat_of_lt' (by simp [UInt64.size]; omega)]
    simp
    omega
  simp only [getU16, getUnsigned_eq (show value.toNat < 2 ^ 63 by omega) h, bind_eq_ok,
    refuseIf_eq_ok]
  exact ⟨_, rfl, (), fits, by simp⟩

lemma getU32_eq {value : UInt32} (h : Holds v key (integerOf value.toNat)) :
    getU32 v key = .ok value := by
  have small := value.toNat_lt
  have fits : ¬ 0xFFFFFFFF < UInt64.ofNat value.toNat := by
    rw [UInt64.lt_iff_toNat_lt, UInt64.toNat_ofNat_of_lt' (by simp [UInt64.size]; omega)]
    simp
    omega
  simp only [getU32, getUnsigned_eq (show value.toNat < 2 ^ 63 by omega) h, bind_eq_ok,
    refuseIf_eq_ok]
  exact ⟨_, rfl, (), fits, by simp⟩

lemma getI32_eq {value : Int32} (h : Holds v key (.integer value.toInt64)) :
    getI32 v key = .ok value := by
  have low := value.le_toInt
  have high := value.toInt_lt
  have fits : ¬ (value.toInt64 < -2147483648 ∨ 2147483647 < value.toInt64) := by
    simp only [Int64.lt_iff_toInt_lt, Int32.toInt_toInt64]
    have : (-2147483648 : Int64).toInt = -2147483648 := by decide
    have : (2147483647 : Int64).toInt = 2147483647 := by decide
    omega
  simp [getI32, getInteger_eq h, refuseIf, fits, bind, Except.bind]

/-- The number of an enumeration value is in the range a decoder checks (source `get_enum`). -/
lemma code_in_range {α : Type} [WireEnum α] (value : α) : ¬ Int64.ofNat (code value) < 0 ∧
    ¬ Int64.ofNat (WireEnum.last α) < Int64.ofNat (code value) := by
  have last := @WireEnum.last_lt α _
  have bound := WireEnum.code_le value
  simp only [Int64.lt_iff_toInt_lt, toInt_ofNat_of_lt (show code value < 2 ^ 63 by omega),
    toInt_ofNat_of_lt (show WireEnum.last α < 2 ^ 63 by omega), Int64.toInt_zero]
  omega

/-- The number of an enumeration value stands for it (source `get_enum`). -/
lemma ofCode_toInt {α : Type} [WireEnum α] (value : α) :
    WireEnum.ofCode (Int64.ofNat (code value)).toInt.toNat = value := by
  have last := @WireEnum.last_lt α _
  have bound := WireEnum.code_le value
  rw [toInt_ofNat_of_lt (by omega), Int.toNat_natCast, WireEnum.ofCode_code]

lemma getEnum_eq {α : Type} [WireEnum α] {what : String} {value : α}
    (h : Holds v key (integerOf (code value))) : getEnum v key what = .ok value := by
  simp only [getEnum, getInteger_eq h, bind_eq_ok, refuseIf_eq_ok]
  refine ⟨_, rfl, (), not_or.2 (code_in_range value), ?_⟩
  rw [ofCode_toInt]

/-- A measurement is read back when it is finite (source `get_finite_real`). -/
lemma getFiniteReal_eq_ok {value read : Binary64} (h : Holds v key (.real value)) :
    getFiniteReal v key = .ok read ↔ value.isFinite = true ∧ read = value := by
  rw [getFiniteReal, getReal_eq h]
  change (refuseIf _ _ >>= _) = _ ↔ _
  rw [refuseIf_bind_eq_ok, Bool.not_eq_false, Except.ok.injEq, @eq_comm _ read]

lemma getDigestField_eq {value : Digest} (h : Holds v key (.text value.toHex)) :
    getDigestField v key = .ok value := by
  simp [getDigestField, getText_eq h, Digest.fromHex_toHex, Except.toOption, orRefuse, bind,
    Except.bind]

lemma getKey_eq {tag : KeyTag} {value : TextKey tag} {what : String}
    (h : Holds v key (.text value.str)) : getKey v key what = .ok value := by
  simp only [getKey, getText_eq h, bind_eq_ok, Except.ok.injEq, exists_eq_left']
  split
  · rename_i empty
    obtain ⟨str, wellFormed⟩ := value
    subst empty
    rfl
  · rename_i nonempty
    exact TextKey.parse_eq_ok.2 ⟨value.isKeyText nonempty, rfl⟩

lemma getIntegerOr_eq {value fallback : Int64} (h : Holds v key (.integer value)) :
    getIntegerOr v key fallback = value := by
  rw [getIntegerOr, getInteger_eq h]
  rfl

lemma getBooleanOr_eq {value fallback : Bool} (h : Holds v key (.boolean value)) :
    getBooleanOr v key fallback = value := by
  rw [getBooleanOr, getBoolean_eq h]
  rfl

lemma getTextOr_eq {value fallback : Bytes} (h : Holds v key (.text value)) :
    getTextOr v key fallback = value := by
  rw [getTextOr, getText_eq h]
  rfl

lemma getArrayOr_eq {es : List Value} (h : Holds v key (.array es)) : getArrayOr v key = es := by
  rw [getArrayOr, getArray_eq h]
  rfl

end Answers

end TransceiverRegistry
