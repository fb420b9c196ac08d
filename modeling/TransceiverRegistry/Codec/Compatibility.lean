import TransceiverRegistry.Codec.Capability
import TransceiverRegistry.Model.Compatibility

/-!
# Codecs of compatibility rules

Port of the requirement, rule and rule record codecs of `codec.cpp`.
-/

namespace TransceiverRegistry

open Lib

variable [StdSort]

namespace Requirement

/-- The members of an encoded requirement (source `Codec<Requirement>::encode`). -/
def fields (value : Requirement) : List (String × Value) := [
  ("key", integerOf (code value.key)),
  ("note", .text value.note),
  ("op", integerOf (code value.op)),
  ("operand", encode value.operand),
  ("subject", integerOf (code value.subject)),
  ("subkey", .text value.subkey)]

instance : Codec Requirement where
  encode value := codecObject value.fields
  decode encoded := do
    let _ ← asObject encoded "requirement"
    let subject ← getEnum encoded "subject" "requirement subject"
    let key ← getEnum encoded "key" "capability key"
    let subkey ← getText encoded "subkey"
    let op ← getEnum encoded "op" "requirement operator"
    let operand ← getRecord encoded "operand"
    let note ← getText encoded "note"
    .ok { subject, key, subkey, op, operand, note }

/-- The operand and the texts of a requirement have room in a snapshot. -/
structure PartsFit (requirement : Requirement) : Prop where
  note : TextFits requirement.note
  operand : requirement.operand.PartsFit
  subkey : TextFits requirement.subkey

lemma fields_ok (value : Requirement) : keysOk (value.fields.map Prod.fst) = true := by
  simp only [fields, List.map]
  decide +kernel

/-- A stored requirement is read back when its operand is readable
(source `Codec<Requirement>::decode`). -/
lemma decode_encode {value read : Requirement} :
    decode (encode value) = .ok read ↔ value.operand.Readable ∧ read = value := by
  have holds {k x} (h : value.fields.lookup k = some x) : Holds (encode value) k x :=
    holds_codecObject value.fields_ok h
  simp only [decode, bind_eq_ok, asObject_eq (holds (k := "key") rfl).object,
    getEnum_eq (holds (k := "subject") rfl), getEnum_eq (holds (k := "key") rfl),
    getText_eq (holds (k := "subkey") rfl), getEnum_eq (holds (k := "op") rfl),
    getRecord_eq_ok (holds (k := "operand") rfl), getText_eq (holds (k := "note") rfl),
    Except.ok.injEq, exists_eq_left', and_assoc, exists_and_left, exists_eq_left, @eq_comm _ read]
  rfl

/-- An encoded requirement is canonical (source `Codec<Requirement>::encode`). -/
lemma canonical_encode (value : Requirement) : (encode value).Canonical := by
  refine canonical_codecObject value.fields_ok ?_
  simp [fields, integerOf, Value.Canonical, LawfulCodec.canonical]

/-- There is room for an encoded requirement (source `Codec<Requirement>::encode`). -/
lemma fits_encode {value : Requirement} (h : value.PartsFit) : (encode value).Fits 5 := by
  refine fits_codecObject value.fields_ok (by simp [fields]) ?_
  simp [fields, h.note, h.subkey, CapabilityValue.fits_encode h.operand]

/-- The weight of an encoded requirement (source `Codec<Requirement>::encode`). -/
lemma weight_encode_le (value : Requirement) :
    (encode value).weight ≤ 500 + value.note.length + value.subkey.length + value.operand.bound := by
  refine (weight_codecObject_le value.fields_ok).trans ?_
  have nested := value.operand.weight_encode_le
  simp +arith only [fields, integerOf, Value.weight, List.map, List.sum_cons, List.sum_nil]
  omega

instance : LawfulCodec Requirement where
  Decodes requirement := requirement.operand.Readable
  Writes := PartsFit
  levels := 5
  weight value := 500 + value.note.length + value.subkey.length + value.operand.bound
  decode_encode := decode_encode
  canonical := canonical_encode
  fits := fits_encode
  weight_le := weight_encode_le

end Requirement

namespace CompatRule

/-- The members of an encoded rule (source `Codec<CompatRule>::encode`). -/
def fields (value : CompatRule) : List (String × Value) := [
  ("enabled", .boolean value.enabled),
  ("name", .text value.name),
  ("priority", .integer value.priority.toInt64),
  ("provenance", encode value.provenance),
  ("rationale", .text value.rationale),
  ("requirements", encodeRecordArray value.requirements),
  ("verdict", integerOf (code value.verdict))]

instance : Codec CompatRule where
  encode value := codecObject value.fields
  decode encoded := do
    let _ ← asObject encoded "compat rule"
    let name ← getText encoded "name"
    let requirements ← getRecordArray encoded "requirements"
    let verdict ← getEnum encoded "verdict" "compat verdict"
    let priority ← getI32 encoded "priority"
    let rationale ← getText encoded "rationale"
    let provenance ← getRecord encoded "provenance"
    let enabled ← getBoolean encoded "enabled"
    .ok { name, requirements, verdict, priority, rationale, provenance, enabled }

/-- The operands of a rule are readable. -/
def Readable (rule : CompatRule) : Prop :=
  ∀ requirement ∈ rule.requirements, requirement.operand.Readable

/-- The requirements and the texts of a rule have room in a snapshot. -/
structure PartsFit (rule : CompatRule) : Prop where
  name : TextFits rule.name
  provenance : rule.provenance.TextsFit
  rationale : TextFits rule.rationale
  few : rule.requirements.length ≤ 1048576
  requirements : ∀ requirement ∈ rule.requirements, requirement.PartsFit

lemma fields_ok (value : CompatRule) : keysOk (value.fields.map Prod.fst) = true := by
  simp only [fields, List.map]
  decide +kernel

/-- A stored rule is read back when its operands are readable (source `Codec<CompatRule>::decode`). -/
lemma decode_encode {value read : CompatRule} :
    decode (encode value) = .ok read ↔ value.Readable ∧ read = value := by
  have holds {k x} (h : value.fields.lookup k = some x) : Holds (encode value) k x :=
    holds_codecObject value.fields_ok h
  simp only [decode, bind_eq_ok, asObject_eq (holds (k := "name") rfl).object,
    getText_eq (holds (k := "name") rfl), getRecordArray_eq_ok (holds (k := "requirements") rfl),
    getEnum_eq (holds (k := "verdict") rfl), getI32_eq (holds (k := "priority") rfl),
    getText_eq (holds (k := "rationale") rfl),
    Provenance.getRecord_eq (holds (k := "provenance") rfl),
    getBoolean_eq (holds (k := "enabled") rfl), Except.ok.injEq, exists_eq_left', and_assoc,
    exists_and_left, exists_eq_left, @eq_comm _ read]
  rfl

/-- An encoded rule is canonical (source `Codec<CompatRule>::encode`). -/
lemma canonical_encode (value : CompatRule) : (encode value).Canonical := by
  refine canonical_codecObject value.fields_ok ?_
  simp [fields, integerOf, Value.Canonical, LawfulCodec.canonical, canonical_encodeRecordArray]

/-- There is room for an encoded rule (source `Codec<CompatRule>::encode`). -/
lemma fits_encode {value : CompatRule} (h : value.PartsFit) : (encode value).Fits 7 := by
  have provenance : (encode value.provenance).Fits 6 :=
    (Provenance.fits_encode h.provenance).mono (by decide)
  have requirements : (encodeRecordArray value.requirements).Fits 6 :=
    fits_encodeRecordArray h.few h.requirements
  refine fits_codecObject value.fields_ok (by simp [fields]) ?_
  simp [fields, h.name, h.rationale, provenance, requirements]

/-- The weight of an encoded rule (source `Codec<CompatRule>::encode`). -/
lemma weight_encode_le (value : CompatRule) :
    (encode value).weight ≤ 600 + value.name.length + LawfulCodec.weight value.provenance +
      value.rationale.length + weights value.requirements := by
  refine (weight_codecObject_le value.fields_ok).trans ?_
  have provenance := LawfulCodec.weight_le value.provenance
  have requirements := weight_encodeRecordArray_le value.requirements
  simp +arith only [fields, integerOf, Value.weight, List.map, List.sum_cons, List.sum_nil]
  omega

instance : LawfulCodec CompatRule where
  Decodes := Readable
  Writes := PartsFit
  levels := 7
  weight value := 600 + value.name.length + LawfulCodec.weight value.provenance +
    value.rationale.length + weights value.requirements
  decode_encode := decode_encode
  canonical := canonical_encode
  fits := fits_encode
  weight_le := weight_encode_le

end CompatRule

namespace CompatRuleRecord

/-- The members of an encoded rule record (source `Codec<CompatRuleRecord>::encode`). -/
def fields (value : CompatRuleRecord) : List (String × Value) := [
  ("generation", integerOf value.generation.toNat),
  ("id", integerOf value.id.toNat),
  ("live", .boolean value.live),
  ("rule", encode value.rule),
  ("sequence", integerOf value.sequence.toNat),
  ("source", integerOf value.source.toNat),
  ("source_epoch", integerOf value.sourceEpoch.toNat)]

instance : Codec CompatRuleRecord where
  encode value := codecObject value.fields
  decode encoded := do
    let _ ← asObject encoded "compat rule record"
    let id ← getU32 encoded "id"
    let rule ← getRecord encoded "rule"
    let source ← getU32 encoded "source"
    let sourceEpoch ← getU32 encoded "source_epoch"
    let generation ← getUnsigned encoded "generation"
    let sequence ← getUnsigned encoded "sequence"
    let live ← getBoolean encoded "live"
    .ok { id, rule, source, sourceEpoch, generation, sequence, live }

/-- The operands and the counters of a rule record are read back as they are. -/
structure Readable (record : CompatRuleRecord) : Prop where
  rule : record.rule.Readable
  generation : record.generation.toNat < 2 ^ 63
  sequence : record.sequence.toNat < 2 ^ 63

lemma fields_ok (value : CompatRuleRecord) : keysOk (value.fields.map Prod.fst) = true := by
  simp only [fields, List.map]
  decide +kernel

/-- A stored rule record is read back when its parts are readable
(source `Codec<CompatRuleRecord>::decode`). -/
lemma decode_encode {value read : CompatRuleRecord} :
    decode (encode value) = .ok read ↔ value.Readable ∧ read = value := by
  have holds {k x} (h : value.fields.lookup k = some x) : Holds (encode value) k x :=
    holds_codecObject value.fields_ok h
  simp only [decode, bind_eq_ok, asObject_eq (holds (k := "id") rfl).object,
    getU32_eq (holds (k := "id") rfl), getRecord_eq_ok (holds (k := "rule") rfl),
    getU32_eq (holds (k := "source") rfl), getU32_eq (holds (k := "source_epoch") rfl),
    getUnsigned_counter (holds (k := "generation") rfl),
    getUnsigned_counter (holds (k := "sequence") rfl), getBoolean_eq (holds (k := "live") rfl),
    Except.ok.injEq, exists_eq_left', and_assoc, exists_and_left, exists_eq_left, @eq_comm _ read]
  exact ⟨fun ⟨h1, h2, h3, e⟩ => ⟨⟨h1, h2, h3⟩, e⟩, fun ⟨⟨h1, h2, h3⟩, e⟩ => ⟨h1, h2, h3, e⟩⟩

/-- An encoded rule record is canonical (source `Codec<CompatRuleRecord>::encode`). -/
lemma canonical_encode (value : CompatRuleRecord) : (encode value).Canonical := by
  refine canonical_codecObject value.fields_ok ?_
  simp [fields, integerOf, Value.Canonical, LawfulCodec.canonical]

/-- There is room for an encoded rule record (source `Codec<CompatRuleRecord>::encode`). -/
lemma fits_encode {value : CompatRuleRecord} (h : value.rule.PartsFit) : (encode value).Fits 8 := by
  have rule : (encode value.rule).Fits 7 := CompatRule.fits_encode h
  refine fits_codecObject value.fields_ok (by simp [fields]) ?_
  simp [fields, rule]

/-- The weight of an encoded rule record (source `Codec<CompatRuleRecord>::encode`). -/
lemma weight_encode_le (value : CompatRuleRecord) :
    (encode value).weight ≤ 500 + LawfulCodec.weight value.rule := by
  refine (weight_codecObject_le value.fields_ok).trans ?_
  have rule := LawfulCodec.weight_le value.rule
  simp +arith only [fields, integerOf, Value.weight, List.map, List.sum_cons, List.sum_nil]
  omega

instance : LawfulCodec CompatRuleRecord where
  Decodes := Readable
  Writes record := record.rule.PartsFit
  levels := 8
  weight record := 500 + LawfulCodec.weight record.rule
  decode_encode := decode_encode
  canonical := canonical_encode
  fits := fits_encode
  weight_le := weight_encode_le

end CompatRuleRecord

end TransceiverRegistry
