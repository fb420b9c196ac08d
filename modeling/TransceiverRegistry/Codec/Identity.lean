import TransceiverRegistry.Codec.Record
import TransceiverRegistry.Model.Identity

/-!
# Codecs of provenance and identity

Port of the provenance, source descriptor and identity claim codecs of `codec.cpp`.
-/

namespace TransceiverRegistry

open Lib

/-- The digits of a digest have room in a snapshot (source `Digest::to_hex`). -/
lemma Digest.toHex_fits (digest : Digest) : TextFits digest.toHex := by
  refine ⟨isValidUtf8_of_ascii ?_, by rw [digest.toHex_length]; decide⟩
  have digit : ∀ b : UInt8, hexDigit (b >>> 4) < 0x80 ∧ hexDigit (b &&& 15) < 0x80 :=
    forall_uint8 (by decide +kernel)
  unfold toHex
  induction digest.bytes.toList with
  | nil => simp [hexBytes]
  | cons b rest ih =>
    obtain ⟨high, low⟩ := digit b
    simp [hexBytes, high, low]
    exact ih

namespace Provenance

/-- The members of an encoded provenance (source `Codec<Provenance>::encode`). -/
def fields (value : Provenance) : List (String × Value) := [
  ("capture_ref", .text value.captureRef),
  ("content_digest", .text value.contentDigest.toHex),
  ("kind", integerOf (code value.kind)),
  ("method", .text value.method),
  ("origin", .text value.origin)]

instance : Codec Provenance where
  encode value := codecObject value.fields
  decode encoded := do
    let _ ← asObject encoded "provenance"
    let kind ← getEnum encoded "kind" "provenance kind"
    let origin ← getText encoded "origin"
    let method ← getText encoded "method"
    let contentDigest ← getDigestField encoded "content_digest"
    let captureRef ← getText encoded "capture_ref"
    .ok ⟨kind, origin, method, contentDigest, captureRef⟩

/-- The texts of a provenance have room in a snapshot. -/
structure TextsFit (value : Provenance) : Prop where
  captureRef : TextFits value.captureRef
  method : TextFits value.method
  origin : TextFits value.origin

lemma fields_ok (value : Provenance) : keysOk (value.fields.map Prod.fst) = true := by
  simp only [fields, List.map]
  decide +kernel

/-- A stored provenance is read back (source `Codec<Provenance>::decode`). -/
lemma decode_encode {value read : Provenance} : decode (encode value) = .ok read ↔ read = value := by
  have holds {k x} (h : value.fields.lookup k = some x) : Holds (encode value) k x :=
    holds_codecObject value.fields_ok h
  simp only [decode, bind_eq_ok, asObject_eq (holds (k := "kind") rfl).object,
    getEnum_eq (holds (k := "kind") rfl), getText_eq (holds (k := "origin") rfl),
    getText_eq (holds (k := "method") rfl), getDigestField_eq (holds (k := "content_digest") rfl),
    getText_eq (holds (k := "capture_ref") rfl), Except.ok.injEq, exists_eq_left', @eq_comm _ read]

/-- An encoded provenance is canonical (source `Codec<Provenance>::encode`). -/
lemma canonical_encode (value : Provenance) : (encode value).Canonical := by
  refine canonical_codecObject value.fields_ok ?_
  simp [fields, integerOf, Value.Canonical]

/-- There is room for an encoded provenance (source `Codec<Provenance>::encode`). -/
lemma fits_encode {value : Provenance} (h : value.TextsFit) : (encode value).Fits 2 := by
  refine fits_codecObject value.fields_ok (by simp [fields]) ?_
  simp [fields, h.captureRef, h.method, h.origin, value.contentDigest.toHex_fits]

/-- The weight of an encoded provenance (source `Codec<Provenance>::encode`). -/
lemma weight_encode_le (value : Provenance) :
    (encode value).weight ≤
      400 + value.captureRef.length + value.method.length + value.origin.length := by
  refine (weight_codecObject_le value.fields_ok).trans ?_
  simp +arith only [fields, integerOf, Value.weight, Digest.toHex_length, List.map,
    List.sum_cons, List.sum_nil]

instance : LawfulCodec Provenance where
  Decodes _ := True
  Writes := TextsFit
  levels := 2
  weight value :=
    400 + value.captureRef.length + value.method.length + value.origin.length
  decode_encode := decode_encode.trans (true_and _).symm.to_iff
  canonical := canonical_encode
  fits := fits_encode
  weight_le := weight_encode_le

/-- A nested provenance is read back (source `get_record<Provenance>`). -/
lemma getRecord_eq {v : Value} {key : String} {value : Provenance}
    (h : Holds v key (encode value)) : getRecord v key = .ok value :=
  (getRecord_eq_ok h).2 ⟨trivial, rfl⟩

end Provenance

namespace SourceDescriptor

/-- The members of an encoded descriptor (source `Codec<SourceDescriptor>::encode`). -/
def fields (value : SourceDescriptor) : List (String × Value) := [
  ("declared_kind", integerOf (code value.declaredKind)),
  ("description", .text value.description),
  ("instance_id", .text value.instanceId),
  ("name", .text value.name)]

instance : Codec SourceDescriptor where
  encode value := codecObject value.fields
  decode encoded := do
    let _ ← asObject encoded "source descriptor"
    let name ← getText encoded "name"
    let description ← getText encoded "description"
    let declaredKind ← getEnum encoded "declared_kind" "source descriptor declared kind"
    let instanceId ← getText encoded "instance_id"
    .ok ⟨name, description, declaredKind, instanceId⟩

/-- The texts of a descriptor have room in a snapshot. -/
structure TextsFit (value : SourceDescriptor) : Prop where
  description : TextFits value.description
  instanceId : TextFits value.instanceId
  name : TextFits value.name

lemma fields_ok (value : SourceDescriptor) : keysOk (value.fields.map Prod.fst) = true := by
  simp only [fields, List.map]
  decide +kernel

/-- A stored descriptor is read back (source `Codec<SourceDescriptor>::decode`). -/
lemma decode_encode {value read : SourceDescriptor} :
    decode (encode value) = .ok read ↔ read = value := by
  have holds {k x} (h : value.fields.lookup k = some x) : Holds (encode value) k x :=
    holds_codecObject value.fields_ok h
  simp only [decode, bind_eq_ok, asObject_eq (holds (k := "name") rfl).object,
    getText_eq (holds (k := "name") rfl), getText_eq (holds (k := "description") rfl),
    getEnum_eq (holds (k := "declared_kind") rfl), getText_eq (holds (k := "instance_id") rfl),
    Except.ok.injEq, exists_eq_left', @eq_comm _ read]

/-- An encoded descriptor is canonical (source `Codec<SourceDescriptor>::encode`). -/
lemma canonical_encode (value : SourceDescriptor) : (encode value).Canonical := by
  refine canonical_codecObject value.fields_ok ?_
  simp [fields, integerOf, Value.Canonical]

/-- There is room for an encoded descriptor (source `Codec<SourceDescriptor>::encode`). -/
lemma fits_encode {value : SourceDescriptor} (h : value.TextsFit) : (encode value).Fits 2 := by
  refine fits_codecObject value.fields_ok (by simp [fields]) ?_
  simp [fields, h.description, h.instanceId, h.name]

/-- The weight of an encoded descriptor (source `Codec<SourceDescriptor>::encode`). -/
lemma weight_encode_le (value : SourceDescriptor) :
    (encode value).weight ≤ 400 + value.description.length + value.instanceId.length + value.name.length := by
  refine (weight_codecObject_le value.fields_ok).trans ?_
  simp +arith only [fields, integerOf, Value.weight, List.map, List.sum_cons, List.sum_nil]

instance : LawfulCodec SourceDescriptor where
  Decodes _ := True
  Writes := TextsFit
  levels := 2
  weight value := 400 + value.description.length + value.instanceId.length + value.name.length
  decode_encode := decode_encode.trans (true_and _).symm.to_iff
  canonical := canonical_encode
  fits := fits_encode
  weight_le := weight_encode_le

end SourceDescriptor

namespace IdentityClaim

/-- The members of an encoded claim (source `Codec<IdentityClaim>::encode`). -/
def fields (value : IdentityClaim) : List (String × Value) := [
  ("clock_domain", .unsigned value.clockDomain),
  ("field", integerOf (code value.field)),
  ("generation", integerOf value.generation.toNat),
  ("incarnation", integerOf value.incarnation.toNat),
  ("live", .boolean value.live),
  ("module", integerOf value.module.toNat),
  ("observed_at_wall_ns", .integer value.observedAtWallNs),
  ("provenance", encode value.provenance),
  ("sequence", integerOf value.sequence.toNat),
  ("source", integerOf value.source.toNat),
  ("source_epoch", integerOf value.sourceEpoch.toNat),
  ("subkey", .text value.subkey),
  ("value", .text value.value)]

instance : Codec IdentityClaim where
  encode value := codecObject value.fields
  decode encoded := do
    let _ ← asObject encoded "identity claim"
    let field ← getEnum encoded "field" "identity claim field"
    let subkey ← getText encoded "subkey"
    let value ← getText encoded "value"
    let source ← getU32 encoded "source"
    let sourceEpoch ← getU32 encoded "source_epoch"
    let module ← getUnsigned encoded "module"
    let incarnation ← getU32 encoded "incarnation"
    let generation ← getUnsigned encoded "generation"
    let sequence ← getUnsigned encoded "sequence"
    let observedAtWallNs ← getInteger encoded "observed_at_wall_ns"
    let clockDomain ← getUnsignedField encoded "clock_domain"
    let provenance ← getRecord encoded "provenance"
    let live ← getBoolean encoded "live"
    .ok { field, subkey, value, source, sourceEpoch, module, incarnation, generation, sequence,
          observedAtWallNs, clockDomain, provenance, live }

/-- The counters of a claim are stored as they are. -/
structure CountersFit (value : IdentityClaim) : Prop where
  module : value.module.toNat < 2 ^ 63
  generation : value.generation.toNat < 2 ^ 63
  sequence : value.sequence.toNat < 2 ^ 63

/-- The texts of a claim have room in a snapshot. -/
structure TextsFit (value : IdentityClaim) : Prop where
  provenance : value.provenance.TextsFit
  subkey : TextFits value.subkey
  value : TextFits value.value

lemma fields_ok (value : IdentityClaim) : keysOk (value.fields.map Prod.fst) = true := by
  simp only [fields, List.map]
  decide +kernel

/-- A stored claim is read back when its counters fit (source `Codec<IdentityClaim>::decode`). -/
lemma decode_encode {value read : IdentityClaim} :
    decode (encode value) = .ok read ↔ value.CountersFit ∧ read = value := by
  have holds {k x} (h : value.fields.lookup k = some x) : Holds (encode value) k x :=
    holds_codecObject value.fields_ok h
  simp only [decode, bind_eq_ok, asObject_eq (holds (k := "field") rfl).object,
    getEnum_eq (holds (k := "field") rfl), getText_eq (holds (k := "subkey") rfl),
    getText_eq (holds (k := "value") rfl), getU32_eq (holds (k := "source") rfl),
    getU32_eq (holds (k := "source_epoch") rfl), getUnsigned_counter (holds (k := "module") rfl),
    getU32_eq (holds (k := "incarnation") rfl),
    getUnsigned_counter (holds (k := "generation") rfl),
    getUnsigned_counter (holds (k := "sequence") rfl),
    getInteger_eq (holds (k := "observed_at_wall_ns") rfl),
    getUnsignedField_eq (holds (k := "clock_domain") rfl),
    Provenance.getRecord_eq (holds (k := "provenance") rfl),
    getBoolean_eq (holds (k := "live") rfl), Except.ok.injEq, exists_eq_left', and_assoc,
    exists_and_left, exists_eq_left, @eq_comm _ read]
  exact ⟨fun ⟨h1, h2, h3, e⟩ => ⟨⟨h1, h2, h3⟩, e⟩, fun ⟨⟨h1, h2, h3⟩, e⟩ => ⟨h1, h2, h3, e⟩⟩

/-- An encoded claim is canonical (source `Codec<IdentityClaim>::encode`). -/
lemma canonical_encode (value : IdentityClaim) : (encode value).Canonical := by
  refine canonical_codecObject value.fields_ok ?_
  simp [fields, integerOf, Value.Canonical, LawfulCodec.canonical]

/-- There is room for an encoded claim (source `Codec<IdentityClaim>::encode`). -/
lemma fits_encode {value : IdentityClaim} (h : value.TextsFit) : (encode value).Fits 3 := by
  refine fits_codecObject value.fields_ok (by simp [fields]) ?_
  simp [fields, h.subkey, h.value]
  exact Provenance.fits_encode h.provenance

/-- The weight of an encoded claim (source `Codec<IdentityClaim>::encode`). -/
lemma weight_encode_le (value : IdentityClaim) :
    (encode value).weight ≤ 900 + LawfulCodec.weight value.provenance + value.subkey.length + value.value.length := by
  refine (weight_codecObject_le value.fields_ok).trans ?_
  have nested := LawfulCodec.weight_le value.provenance
  simp +arith only [fields, integerOf, Value.weight, List.map, List.sum_cons, List.sum_nil]
  omega

instance : LawfulCodec IdentityClaim where
  Decodes := CountersFit
  Writes := TextsFit
  levels := 3
  weight value :=
    900 + LawfulCodec.weight value.provenance + value.subkey.length + value.value.length
  decode_encode := decode_encode
  canonical := canonical_encode
  fits := fits_encode
  weight_le := weight_encode_le

end IdentityClaim

end TransceiverRegistry
