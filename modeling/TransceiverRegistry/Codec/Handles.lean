import TransceiverRegistry.Codec.Identity
import TransceiverRegistry.Registry.Evidence

/-!
# Codecs of handles and registrations

Port of the handle, authority, identity value and module registration codecs of `codec.cpp`, which
stand in requests and answers and never in a snapshot.
-/

namespace TransceiverRegistry

open Lib

/-- The codes of `MutationPolicy` fit in a byte. -/
lemma MutationPolicy.fits_byte : 1 < 256 := by decide

instance : WireEnum MutationPolicy where
  code := MutationPolicy.ctorIdx
  last := 1
  ofCode := MutationPolicy.ofNat
  last_lt := MutationPolicy.fits_byte
  code_le a := by cases a <;> decide
  ofCode_code := MutationPolicy.ofNat_ctorIdx
  code_ofCode := by decide

/-- The codes of `RegisterIntent` fit in a byte. -/
lemma RegisterIntent.fits_byte : 1 < 256 := by decide

instance : WireEnum RegisterIntent where
  code := RegisterIntent.ctorIdx
  last := 1
  ofCode := RegisterIntent.ofNat
  last_lt := RegisterIntent.fits_byte
  code_le a := by cases a <;> decide
  ofCode_code := RegisterIntent.ofNat_ctorIdx
  code_ofCode := by decide

namespace SourceHandle

/-- The members of an encoded source handle (source `Codec<SourceHandle>::encode`). -/
def fields (value : SourceHandle) : List (String × Value) := [
  ("epoch", integerOf value.epoch.toNat),
  ("generation", integerOf value.generation.toNat),
  ("id", integerOf value.id.toNat)]

instance : Codec SourceHandle where
  encode value := codecObject value.fields
  decode encoded := do
    let _ ← asObject encoded "source handle"
    let id ← getU32 encoded "id"
    let epoch ← getU32 encoded "epoch"
    let generation ← getUnsigned encoded "generation"
    .ok { id, epoch, generation }

/-- The counter of a source handle is sent as it is. -/
def Readable (handle : SourceHandle) : Prop := handle.generation.toNat < 2 ^ 63

lemma fields_ok (value : SourceHandle) : keysOk (value.fields.map Prod.fst) = true := by
  simp only [fields, List.map]
  decide +kernel

/-- A source handle is read back when its counter fits (source `Codec<SourceHandle>::decode`). -/
lemma decode_encode {value read : SourceHandle} :
    decode (encode value) = .ok read ↔ value.Readable ∧ read = value := by
  have holds {k x} (h : value.fields.lookup k = some x) : Holds (encode value) k x :=
    holds_codecObject value.fields_ok h
  simp only [decode, bind_eq_ok, asObject_eq (holds (k := "id") rfl).object,
    getU32_eq (holds (k := "id") rfl), getU32_eq (holds (k := "epoch") rfl),
    getUnsigned_counter (holds (k := "generation") rfl), Except.ok.injEq, exists_eq_left',
    and_assoc, exists_and_left, exists_eq_left, @eq_comm _ read]
  rfl

end SourceHandle

namespace ModuleHandle

/-- The members of an encoded module handle (source `Codec<ModuleHandle>::encode`). -/
def fields (value : ModuleHandle) : List (String × Value) := [
  ("generation", integerOf value.generation.toNat),
  ("incarnation", integerOf value.incarnation.toNat),
  ("key", .text value.key.str),
  ("uid", integerOf value.uid.toNat)]

instance : Codec ModuleHandle where
  encode value := codecObject value.fields
  decode encoded := do
    let _ ← asObject encoded "module handle"
    let uid ← getUnsigned encoded "uid"
    let incarnation ← getU32 encoded "incarnation"
    let generation ← getUnsigned encoded "generation"
    let key ← getKey encoded "key" "module handle key"
    .ok { uid, incarnation, generation, key }

/-- The counters of a module handle are sent as they are. -/
structure Readable (handle : ModuleHandle) : Prop where
  uid : handle.uid.toNat < 2 ^ 63
  generation : handle.generation.toNat < 2 ^ 63

lemma fields_ok (value : ModuleHandle) : keysOk (value.fields.map Prod.fst) = true := by
  simp only [fields, List.map]
  decide +kernel

/-- A module handle is read back when its counters fit (source `Codec<ModuleHandle>::decode`). -/
lemma decode_encode {value read : ModuleHandle} :
    decode (encode value) = .ok read ↔ value.Readable ∧ read = value := by
  have holds {k x} (h : value.fields.lookup k = some x) : Holds (encode value) k x :=
    holds_codecObject value.fields_ok h
  simp only [decode, bind_eq_ok, asObject_eq (holds (k := "uid") rfl).object,
    getUnsigned_counter (holds (k := "uid") rfl), getU32_eq (holds (k := "incarnation") rfl),
    getUnsigned_counter (holds (k := "generation") rfl), getKey_eq (holds (k := "key") rfl),
    Except.ok.injEq, exists_eq_left', and_assoc, exists_and_left, exists_eq_left, @eq_comm _ read]
  exact ⟨fun ⟨h1, h2, e⟩ => ⟨⟨h1, h2⟩, e⟩, fun ⟨⟨h1, h2⟩, e⟩ => ⟨h1, h2, e⟩⟩

end ModuleHandle

namespace AuthorityToken

/-- The members of an encoded authority (source `Codec<AuthorityToken>::encode`). -/
def fields (value : AuthorityToken) : List (String × Value) := [
  ("epoch", integerOf value.epoch.toNat),
  ("source", integerOf value.source.toNat)]

instance : Codec AuthorityToken where
  encode value := codecObject value.fields
  decode encoded := do
    let _ ← asObject encoded "authority token"
    let source ← getU32 encoded "source"
    let epoch ← getU32 encoded "epoch"
    .ok { source, epoch }

lemma fields_ok (value : AuthorityToken) : keysOk (value.fields.map Prod.fst) = true := by
  simp only [fields, List.map]
  decide +kernel

/-- An authority is read back (source `Codec<AuthorityToken>::decode`). -/
lemma decode_encode {value read : AuthorityToken} :
    decode (encode value) = .ok read ↔ read = value := by
  have holds {k x} (h : value.fields.lookup k = some x) : Holds (encode value) k x :=
    holds_codecObject value.fields_ok h
  simp only [decode, bind_eq_ok, asObject_eq (holds (k := "source") rfl).object,
    getU32_eq (holds (k := "source") rfl), getU32_eq (holds (k := "epoch") rfl), Except.ok.injEq,
    exists_eq_left', @eq_comm _ read]

end AuthorityToken

namespace IdentityFieldValue

/-- The members of an encoded identity value (source `Codec<IdentityFieldValue>::encode`). -/
def fields (value : IdentityFieldValue) : List (String × Value) := [
  ("field", integerOf (code value.field)),
  ("subkey", .text value.subkey),
  ("value", .text value.value)]

instance : Codec IdentityFieldValue where
  encode value := codecObject value.fields
  decode encoded := do
    let _ ← asObject encoded "identity field value"
    let field ← getEnum encoded "field" "identity field"
    let subkey ← getText encoded "subkey"
    let value ← getText encoded "value"
    .ok { field, subkey, value }

lemma fields_ok (value : IdentityFieldValue) : keysOk (value.fields.map Prod.fst) = true := by
  simp only [fields, List.map]
  decide +kernel

/-- An identity value is read back (source `Codec<IdentityFieldValue>::decode`). -/
lemma decode_encode {value read : IdentityFieldValue} :
    decode (encode value) = .ok read ↔ read = value := by
  have holds {k x} (h : value.fields.lookup k = some x) : Holds (encode value) k x :=
    holds_codecObject value.fields_ok h
  simp only [decode, bind_eq_ok, asObject_eq (holds (k := "field") rfl).object,
    getEnum_eq (holds (k := "field") rfl), getText_eq (holds (k := "subkey") rfl),
    getText_eq (holds (k := "value") rfl), Except.ok.injEq, exists_eq_left', @eq_comm _ read]

end IdentityFieldValue

namespace ModuleRegistration

/-- The members of an encoded registration (source `Codec<ModuleRegistration>::encode`). -/
def fields (value : ModuleRegistration) : List (String × Value) := [
  ("expected_generation", integerOf value.expectedGeneration.toNat),
  ("identity", encodeRecordArray value.identity),
  ("intent", integerOf (code value.intent)),
  ("key", .text value.key.str),
  ("policy", integerOf (code value.policy)),
  ("provenance", encode value.provenance)]

instance : Codec ModuleRegistration where
  encode value := codecObject value.fields
  decode encoded := do
    let _ ← asObject encoded "module registration"
    let key ← getKey encoded "key" "module registration key"
    let identity ← getRecordArray encoded "identity"
    let intent ← getEnum encoded "intent" "register intent"
    let provenance ← getRecord encoded "provenance"
    let policy ← getEnum encoded "policy" "mutation policy"
    let expectedGeneration ← getUnsigned encoded "expected_generation"
    .ok { key, identity, intent, provenance, policy, expectedGeneration }

/-- The fence of a registration is sent as it is. -/
def Readable (registration : ModuleRegistration) : Prop :=
  registration.expectedGeneration.toNat < 2 ^ 63

lemma fields_ok (value : ModuleRegistration) : keysOk (value.fields.map Prod.fst) = true := by
  simp only [fields, List.map]
  decide +kernel

/-- A registration is read back when its fence fits (source `Codec<ModuleRegistration>::decode`). -/
lemma decode_encode {value read : ModuleRegistration} :
    decode (encode value) = .ok read ↔ value.Readable ∧ read = value := by
  have holds {k x} (h : value.fields.lookup k = some x) : Holds (encode value) k x :=
    holds_codecObject value.fields_ok h
  have each (a b : IdentityFieldValue) : decode (encode a) = .ok b ↔ True ∧ b = a := by
    rw [IdentityFieldValue.decode_encode, true_and]
  simp only [decode, bind_eq_ok, asObject_eq (holds (k := "key") rfl).object,
    getKey_eq (holds (k := "key") rfl), getRecordArray_iff each (holds (k := "identity") rfl),
    getEnum_eq (holds (k := "intent") rfl),
    Provenance.getRecord_eq (holds (k := "provenance") rfl), getEnum_eq (holds (k := "policy") rfl),
    getUnsigned_counter (holds (k := "expected_generation") rfl), Except.ok.injEq, exists_eq_left',
    implies_true, true_and, and_assoc, exists_and_left, exists_eq_left, @eq_comm _ read]
  rfl

end ModuleRegistration

end TransceiverRegistry
