import TransceiverRegistry.Codec.Capability
import TransceiverRegistry.Registry.Queries

/-!
# Codecs of consensus and views

Port of the codecs of `codec.cpp` for what a query answers about identity and capabilities, and of
the codec of a single wavelength. That codec takes negative wavelengths, which the reader of a
capability value refuses.
-/

namespace TransceiverRegistry

open Lib

namespace SpectrumDescriptor

instance : Codec SpectrumDescriptor where
  encode value := codecObject value.fields
  decode encoded := do
    let _ ← asObject encoded "spectrum descriptor"
    let lane ← getU16 encoded "lane"
    let centerNm ← getFiniteReal encoded "center_nm"
    let frequencyThz ← getFiniteReal encoded "frequency_thz"
    let grid ← getEnum encoded "grid" "wavelength grid"
    let channel ← getText encoded "channel"
    .ok { lane, centerNm, frequencyThz, grid, channel }

/-- The numbers of a wavelength are finite. -/
structure Finite (value : SpectrumDescriptor) : Prop where
  center : value.centerNm.isFinite = true
  frequency : value.frequencyThz.isFinite = true

/-- A wavelength is read back when its numbers are finite
(source `Codec<SpectrumDescriptor>::decode`). -/
lemma decode_encode {value read : SpectrumDescriptor} :
    decode (encode value) = .ok read ↔ value.Finite ∧ read = value := by
  have holds {k x} (h : value.fields.lookup k = some x) : Holds (encode value) k x :=
    holds_codecObject value.fields_ok h
  simp only [decode, bind_eq_ok, asObject_eq (holds (k := "lane") rfl).object,
    getU16_eq (holds (k := "lane") rfl), getFiniteReal_eq_ok (holds (k := "center_nm") rfl),
    getFiniteReal_eq_ok (holds (k := "frequency_thz") rfl), getEnum_eq (holds (k := "grid") rfl),
    getText_eq (holds (k := "channel") rfl), Except.ok.injEq, exists_eq_left', and_assoc,
    exists_and_left, exists_eq_left, @eq_comm _ read]
  exact ⟨fun ⟨h1, h2, e⟩ => ⟨⟨h1, h2⟩, e⟩, fun ⟨⟨h1, h2⟩, e⟩ => ⟨h1, h2, e⟩⟩

end SpectrumDescriptor

namespace FieldConsensus

/-- The members of an encoded field (source `Codec<FieldConsensus>::encode`). -/
def fields (value : FieldConsensus) : List (String × Value) := [
  ("claims", encodeRecordArray value.claims),
  ("digest", .text value.digest.toHex),
  ("field", integerOf (code value.field)),
  ("has_value", .boolean value.hasValue),
  ("outcome", integerOf (code value.outcome)),
  ("subkey", .text value.subkey),
  ("superseded_claims", encodeRecordArray value.supersededClaims),
  ("value", .text value.value)]

instance : Codec FieldConsensus where
  encode value := codecObject value.fields
  decode encoded := do
    let _ ← asObject encoded "field consensus"
    let field ← getEnum encoded "field" "consensus field"
    let subkey ← getText encoded "subkey"
    let outcome ← getEnum encoded "outcome" "consensus outcome"
    let hasValue ← getBoolean encoded "has_value"
    let value ← getText encoded "value"
    let claims ← getRecordArray encoded "claims"
    let supersededClaims ← getRecordArray encoded "superseded_claims"
    let digest ← getDigestField encoded "digest"
    .ok { field, subkey, outcome, hasValue, value, claims, supersededClaims, digest }

/-- The counters of the claims behind a field are sent as they are. -/
structure Readable (consensus : FieldConsensus) : Prop where
  claims : ∀ claim ∈ consensus.claims, claim.CountersFit
  supersededClaims : ∀ claim ∈ consensus.supersededClaims, claim.CountersFit

lemma fields_ok (value : FieldConsensus) : keysOk (value.fields.map Prod.fst) = true := by
  simp only [fields, List.map]
  decide +kernel

/-- A field is read back when its claims are (source `Codec<FieldConsensus>::decode`). -/
lemma decode_encode {value read : FieldConsensus} :
    decode (encode value) = .ok read ↔ value.Readable ∧ read = value := by
  have holds {k x} (h : value.fields.lookup k = some x) : Holds (encode value) k x :=
    holds_codecObject value.fields_ok h
  have each (a b : IdentityClaim) : decode (encode a) = .ok b ↔ a.CountersFit ∧ b = a :=
    IdentityClaim.decode_encode
  simp only [decode, bind_eq_ok, asObject_eq (holds (k := "field") rfl).object,
    getEnum_eq (holds (k := "field") rfl), getText_eq (holds (k := "subkey") rfl),
    getEnum_eq (holds (k := "outcome") rfl), getBoolean_eq (holds (k := "has_value") rfl),
    getText_eq (holds (k := "value") rfl), getRecordArray_iff each (holds (k := "claims") rfl),
    getRecordArray_iff each (holds (k := "superseded_claims") rfl),
    getDigestField_eq (holds (k := "digest") rfl), Except.ok.injEq, exists_eq_left', and_assoc,
    exists_and_left, exists_eq_left, @eq_comm _ read]
  exact ⟨fun ⟨h1, h2, e⟩ => ⟨⟨h1, h2⟩, e⟩, fun ⟨⟨h1, h2⟩, e⟩ => ⟨h1, h2, e⟩⟩

end FieldConsensus

namespace IdentityView

/-- The members of an encoded identity view (source `Codec<IdentityView>::encode`). -/
def members (value : IdentityView) : List (String × Value) := [
  ("conflicting_fields", integerOf value.conflictingFields.toNat),
  ("digest", .text value.digest.toHex),
  ("fields", encodeRecordArray value.fields),
  ("generation", integerOf value.generation.toNat),
  ("incarnation", integerOf value.incarnation.toNat),
  ("key", .text value.key.str),
  ("lifecycle", integerOf (code value.lifecycle)),
  ("superseded_fields", integerOf value.supersededFields.toNat),
  ("uid", integerOf value.uid.toNat)]

instance : Codec IdentityView where
  encode value := codecObject value.members
  decode encoded := do
    let _ ← asObject encoded "identity view"
    let uid ← getUnsigned encoded "uid"
    let incarnation ← getU32 encoded "incarnation"
    let key ← getKey encoded "key" "identity view key"
    let generation ← getUnsigned encoded "generation"
    let lifecycle ← getEnum encoded "lifecycle" "lifecycle state"
    let fields ← getRecordArray encoded "fields"
    let digest ← getDigestField encoded "digest"
    let conflictingFields ← getU32 encoded "conflicting_fields"
    let supersededFields ← getU32 encoded "superseded_fields"
    .ok { uid, incarnation, key, generation, lifecycle, fields, digest, conflictingFields,
          supersededFields }

/-- The counters of an identity view are sent as they are. -/
structure Readable (view : IdentityView) : Prop where
  uid : view.uid.toNat < 2 ^ 63
  generation : view.generation.toNat < 2 ^ 63
  fields : ∀ consensus ∈ view.fields, consensus.Readable

lemma members_ok (value : IdentityView) : keysOk (value.members.map Prod.fst) = true := by
  simp only [members, List.map]
  decide +kernel

/-- An identity view is read back when its counters fit (source `Codec<IdentityView>::decode`). -/
lemma decode_encode {value read : IdentityView} :
    decode (encode value) = .ok read ↔ value.Readable ∧ read = value := by
  have holds {k x} (h : value.members.lookup k = some x) : Holds (encode value) k x :=
    holds_codecObject value.members_ok h
  have each (a b : FieldConsensus) : decode (encode a) = .ok b ↔ a.Readable ∧ b = a :=
    FieldConsensus.decode_encode
  simp only [decode, bind_eq_ok, asObject_eq (holds (k := "uid") rfl).object,
    getUnsigned_counter (holds (k := "uid") rfl), getU32_eq (holds (k := "incarnation") rfl),
    getKey_eq (holds (k := "key") rfl), getUnsigned_counter (holds (k := "generation") rfl),
    getEnum_eq (holds (k := "lifecycle") rfl), getRecordArray_iff each (holds (k := "fields") rfl),
    getDigestField_eq (holds (k := "digest") rfl),
    getU32_eq (holds (k := "conflicting_fields") rfl),
    getU32_eq (holds (k := "superseded_fields") rfl), Except.ok.injEq, exists_eq_left', and_assoc,
    exists_and_left, exists_eq_left, @eq_comm _ read]
  exact ⟨fun ⟨h1, h2, h3, e⟩ => ⟨⟨h1, h2, h3⟩, e⟩, fun ⟨⟨h1, h2, h3⟩, e⟩ => ⟨h1, h2, h3, e⟩⟩

end IdentityView

variable [StdSort]

namespace CapabilityConsensus

/-- The members of an encoded attribute (source `Codec<CapabilityConsensus>::encode`). -/
def fields (value : CapabilityConsensus) : List (String × Value) := [
  ("declarations", encodeRecordArray value.declarations),
  ("digest", .text value.digest.toHex),
  ("has_value", .boolean value.hasValue),
  ("key", integerOf (code value.key)),
  ("outcome", integerOf (code value.outcome)),
  ("subkey", .text value.subkey),
  ("superseded", encodeRecordArray value.superseded),
  ("value", encode value.value)]

instance : Codec CapabilityConsensus where
  encode value := codecObject value.fields
  decode encoded := do
    let _ ← asObject encoded "capability consensus"
    let key ← getEnum encoded "key" "capability consensus key"
    let subkey ← getText encoded "subkey"
    let outcome ← getEnum encoded "outcome" "consensus outcome"
    let hasValue ← getBoolean encoded "has_value"
    let value ← getRecord encoded "value"
    let declarations ← getRecordArray encoded "declarations"
    let superseded ← getRecordArray encoded "superseded"
    let digest ← getDigestField encoded "digest"
    .ok { key, subkey, outcome, hasValue, value, declarations, superseded, digest }

/-- The value and the declarations of an attribute are sent as they are. -/
structure Readable (consensus : CapabilityConsensus) : Prop where
  value : consensus.value.Readable
  declarations : ∀ declaration ∈ consensus.declarations, declaration.Readable
  superseded : ∀ declaration ∈ consensus.superseded, declaration.Readable

lemma fields_ok (value : CapabilityConsensus) : keysOk (value.fields.map Prod.fst) = true := by
  simp only [fields, List.map]
  decide +kernel

/-- An attribute is read back when its value and its declarations are
(source `Codec<CapabilityConsensus>::decode`). -/
lemma decode_encode {value read : CapabilityConsensus} :
    decode (encode value) = .ok read ↔ value.Readable ∧ read = value := by
  have holds {k x} (h : value.fields.lookup k = some x) : Holds (encode value) k x :=
    holds_codecObject value.fields_ok h
  have each (a b : CapabilityDeclaration) : decode (encode a) = .ok b ↔ a.Readable ∧ b = a :=
    CapabilityDeclaration.decode_encode
  have inner (a b : CapabilityValue) : decode (encode a) = .ok b ↔ a.Readable ∧ b = a :=
    CapabilityValue.decode_encode
  simp only [decode, bind_eq_ok, asObject_eq (holds (k := "key") rfl).object,
    getEnum_eq (holds (k := "key") rfl), getText_eq (holds (k := "subkey") rfl),
    getEnum_eq (holds (k := "outcome") rfl), getBoolean_eq (holds (k := "has_value") rfl),
    getRecord_iff inner (holds (k := "value") rfl),
    getRecordArray_iff each (holds (k := "declarations") rfl),
    getRecordArray_iff each (holds (k := "superseded") rfl),
    getDigestField_eq (holds (k := "digest") rfl), Except.ok.injEq, exists_eq_left', and_assoc,
    exists_and_left, exists_eq_left, @eq_comm _ read]
  exact ⟨fun ⟨h1, h2, h3, e⟩ => ⟨⟨h1, h2, h3⟩, e⟩, fun ⟨⟨h1, h2, h3⟩, e⟩ => ⟨h1, h2, h3, e⟩⟩

end CapabilityConsensus

namespace CapabilityView

/-- The members of an encoded capability view (source `Codec<CapabilityView>::encode`). -/
def fields (value : CapabilityView) : List (String × Value) := [
  ("attributes", encodeRecordArray value.attributes),
  ("conflicting_attributes", integerOf value.conflictingAttributes.toNat),
  ("digest", .text value.digest.toHex),
  ("generation", integerOf value.generation.toNat),
  ("incarnation", integerOf value.incarnation.toNat),
  ("module_subject", .boolean value.moduleSubject),
  ("port", .text value.port.str),
  ("uid", integerOf value.uid.toNat),
  ("unestablished_attributes", integerOf value.unestablishedAttributes.toNat)]

instance : Codec CapabilityView where
  encode value := codecObject value.fields
  decode encoded := do
    let _ ← asObject encoded "capability view"
    let moduleSubject ← getBoolean encoded "module_subject"
    let uid ← getUnsigned encoded "uid"
    let incarnation ← getU32 encoded "incarnation"
    let port ← getKey encoded "port" "capability view port"
    let generation ← getUnsigned encoded "generation"
    let attributes ← getRecordArray encoded "attributes"
    let digest ← getDigestField encoded "digest"
    let conflictingAttributes ← getU32 encoded "conflicting_attributes"
    let unestablishedAttributes ← getU32 encoded "unestablished_attributes"
    .ok { moduleSubject, uid, incarnation, port, generation, attributes, digest,
          conflictingAttributes, unestablishedAttributes }

/-- The counters and the attributes of a capability view are sent as they are. -/
structure Readable (view : CapabilityView) : Prop where
  uid : view.uid.toNat < 2 ^ 63
  generation : view.generation.toNat < 2 ^ 63
  attributes : ∀ consensus ∈ view.attributes, consensus.Readable

lemma fields_ok (value : CapabilityView) : keysOk (value.fields.map Prod.fst) = true := by
  simp only [fields, List.map]
  decide +kernel

/-- A capability view is read back when its parts are (source `Codec<CapabilityView>::decode`). -/
lemma decode_encode {value read : CapabilityView} :
    decode (encode value) = .ok read ↔ value.Readable ∧ read = value := by
  have holds {k x} (h : value.fields.lookup k = some x) : Holds (encode value) k x :=
    holds_codecObject value.fields_ok h
  have each (a b : CapabilityConsensus) : decode (encode a) = .ok b ↔ a.Readable ∧ b = a :=
    CapabilityConsensus.decode_encode
  simp only [decode, bind_eq_ok, asObject_eq (holds (k := "uid") rfl).object,
    getBoolean_eq (holds (k := "module_subject") rfl), getUnsigned_counter (holds (k := "uid") rfl),
    getU32_eq (holds (k := "incarnation") rfl), getKey_eq (holds (k := "port") rfl),
    getUnsigned_counter (holds (k := "generation") rfl),
    getRecordArray_iff each (holds (k := "attributes") rfl),
    getDigestField_eq (holds (k := "digest") rfl),
    getU32_eq (holds (k := "conflicting_attributes") rfl),
    getU32_eq (holds (k := "unestablished_attributes") rfl), Except.ok.injEq, exists_eq_left',
    and_assoc, exists_and_left, exists_eq_left, @eq_comm _ read]
  exact ⟨fun ⟨h1, h2, h3, e⟩ => ⟨⟨h1, h2, h3⟩, e⟩, fun ⟨⟨h1, h2, h3⟩, e⟩ => ⟨h1, h2, h3, e⟩⟩

end CapabilityView

end TransceiverRegistry
