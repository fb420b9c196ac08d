import TransceiverRegistry.Codec.Record
import TransceiverRegistry.Registry.State

/-!
# Codecs of the lifecycle and of slots

Port of the lifecycle event and attachment record codecs of `codec.cpp`.
-/

namespace TransceiverRegistry

open Lib

namespace LifecycleEvent

/-- The members of an encoded event (source `Codec<LifecycleEvent>::encode`). -/
def fields (value : LifecycleEvent) : List (String × Value) := [
  ("from", integerOf (code value.from_)),
  ("generation", integerOf value.generation.toNat),
  ("incarnation", integerOf value.incarnation.toNat),
  ("reason", .text value.reason),
  ("sequence", integerOf value.sequence.toNat),
  ("source", integerOf value.source.toNat),
  ("source_epoch", integerOf value.sourceEpoch.toNat),
  ("to", integerOf (code value.to_)),
  ("wall_ns", .integer value.wallNs)]

instance : Codec LifecycleEvent where
  encode value := codecObject value.fields
  decode encoded := do
    let _ ← asObject encoded "lifecycle event"
    let from_ ← getEnum encoded "from" "lifecycle state"
    let to_ ← getEnum encoded "to" "lifecycle state"
    let incarnation ← getU32 encoded "incarnation"
    let reason ← getText encoded "reason"
    let source ← getU32 encoded "source"
    let sourceEpoch ← getU32 encoded "source_epoch"
    let generation ← getUnsigned encoded "generation"
    let sequence ← getUnsigned encoded "sequence"
    let wallNs ← getInteger encoded "wall_ns"
    .ok { from_, to_, incarnation, reason, source, sourceEpoch, generation, sequence, wallNs }

/-- The counters of an event are read back as they are. -/
structure CountersFit (event : LifecycleEvent) : Prop where
  generation : event.generation.toNat < 2 ^ 63
  sequence : event.sequence.toNat < 2 ^ 63

lemma fields_ok (value : LifecycleEvent) : keysOk (value.fields.map Prod.fst) = true := by
  simp only [fields, List.map]
  decide +kernel

/-- A stored event is read back when its counters fit (source `Codec<LifecycleEvent>::decode`). -/
lemma decode_encode {value read : LifecycleEvent} :
    decode (encode value) = .ok read ↔ value.CountersFit ∧ read = value := by
  have holds {k x} (h : value.fields.lookup k = some x) : Holds (encode value) k x :=
    holds_codecObject value.fields_ok h
  simp only [decode, bind_eq_ok, asObject_eq (holds (k := "from") rfl).object,
    getEnum_eq (holds (k := "from") rfl), getEnum_eq (holds (k := "to") rfl),
    getU32_eq (holds (k := "incarnation") rfl), getText_eq (holds (k := "reason") rfl),
    getU32_eq (holds (k := "source") rfl), getU32_eq (holds (k := "source_epoch") rfl),
    getUnsigned_counter (holds (k := "generation") rfl),
    getUnsigned_counter (holds (k := "sequence") rfl), getInteger_eq (holds (k := "wall_ns") rfl),
    Except.ok.injEq, exists_eq_left', and_assoc, exists_and_left, exists_eq_left, @eq_comm _ read]
  exact ⟨fun ⟨h1, h2, e⟩ => ⟨⟨h1, h2⟩, e⟩, fun ⟨⟨h1, h2⟩, e⟩ => ⟨h1, h2, e⟩⟩

/-- An encoded event is canonical (source `Codec<LifecycleEvent>::encode`). -/
lemma canonical_encode (value : LifecycleEvent) : (encode value).Canonical := by
  refine canonical_codecObject value.fields_ok ?_
  simp [fields, integerOf, Value.Canonical]

/-- There is room for an encoded event (source `Codec<LifecycleEvent>::encode`). -/
lemma fits_encode {value : LifecycleEvent} (h : TextFits value.reason) : (encode value).Fits 2 := by
  refine fits_codecObject value.fields_ok (by simp [fields]) ?_
  simp [fields, h]

/-- The weight of an encoded event (source `Codec<LifecycleEvent>::encode`). -/
lemma weight_encode_le (value : LifecycleEvent) :
    (encode value).weight ≤ 600 + value.reason.length := by
  refine (weight_codecObject_le value.fields_ok).trans ?_
  simp +arith only [fields, integerOf, Value.weight, List.map, List.sum_cons, List.sum_nil]

instance : LawfulCodec LifecycleEvent where
  Decodes := CountersFit
  Writes event := TextFits event.reason
  levels := 2
  weight event := 600 + event.reason.length
  decode_encode := decode_encode
  canonical := canonical_encode
  fits := fits_encode
  weight_le := weight_encode_le

end LifecycleEvent

namespace AttachmentRecord

/-- The members of an encoded attachment (source `Codec<AttachmentRecord>::encode`). -/
def fields (value : AttachmentRecord) : List (String × Value) := [
  ("attached_at_wall_ns", .integer value.attachedAtWallNs),
  ("generation", integerOf value.generation.toNat),
  ("incarnation", integerOf value.incarnation.toNat),
  ("live", .boolean value.live),
  ("note", .text value.note),
  ("port_index", integerOf value.portIndex.toNat),
  ("sequence", integerOf value.sequence.toNat),
  ("slot", .text value.slot.str),
  ("source", integerOf value.source.toNat),
  ("source_epoch", integerOf value.sourceEpoch.toNat),
  ("uid", integerOf value.uid.toNat)]

instance : Codec AttachmentRecord where
  encode value := codecObject value.fields
  decode encoded := do
    let _ ← asObject encoded "attachment record"
    let slot ← getKey encoded "slot" "attachment slot"
    let portIndex ← getU32 encoded "port_index"
    let uid ← getUnsigned encoded "uid"
    let incarnation ← getU32 encoded "incarnation"
    let source ← getU32 encoded "source"
    let sourceEpoch ← getU32 encoded "source_epoch"
    let generation ← getUnsigned encoded "generation"
    let sequence ← getUnsigned encoded "sequence"
    let attachedAtWallNs ← getInteger encoded "attached_at_wall_ns"
    let live ← getBoolean encoded "live"
    let note ← getText encoded "note"
    .ok { slot, portIndex, uid, incarnation, source, sourceEpoch, generation, sequence,
          attachedAtWallNs, live, note }

/-- The counters of an attachment are read back as they are. -/
structure CountersFit (attachment : AttachmentRecord) : Prop where
  uid : attachment.uid.toNat < 2 ^ 63
  generation : attachment.generation.toNat < 2 ^ 63
  sequence : attachment.sequence.toNat < 2 ^ 63

lemma fields_ok (value : AttachmentRecord) : keysOk (value.fields.map Prod.fst) = true := by
  simp only [fields, List.map]
  decide +kernel

/-- A stored attachment is read back when its counters fit
(source `Codec<AttachmentRecord>::decode`). -/
lemma decode_encode {value read : AttachmentRecord} :
    decode (encode value) = .ok read ↔ value.CountersFit ∧ read = value := by
  have holds {k x} (h : value.fields.lookup k = some x) : Holds (encode value) k x :=
    holds_codecObject value.fields_ok h
  simp only [decode, bind_eq_ok, asObject_eq (holds (k := "slot") rfl).object,
    getKey_eq (holds (k := "slot") rfl), getU32_eq (holds (k := "port_index") rfl),
    getUnsigned_counter (holds (k := "uid") rfl), getU32_eq (holds (k := "incarnation") rfl),
    getU32_eq (holds (k := "source") rfl), getU32_eq (holds (k := "source_epoch") rfl),
    getUnsigned_counter (holds (k := "generation") rfl),
    getUnsigned_counter (holds (k := "sequence") rfl),
    getInteger_eq (holds (k := "attached_at_wall_ns") rfl),
    getBoolean_eq (holds (k := "live") rfl), getText_eq (holds (k := "note") rfl),
    Except.ok.injEq, exists_eq_left', and_assoc, exists_and_left, exists_eq_left, @eq_comm _ read]
  exact ⟨fun ⟨h1, h2, h3, e⟩ => ⟨⟨h1, h2, h3⟩, e⟩, fun ⟨⟨h1, h2, h3⟩, e⟩ => ⟨h1, h2, h3, e⟩⟩

/-- An encoded attachment is canonical (source `Codec<AttachmentRecord>::encode`). -/
lemma canonical_encode (value : AttachmentRecord) : (encode value).Canonical := by
  refine canonical_codecObject value.fields_ok ?_
  simp [fields, integerOf, Value.Canonical]

/-- There is room for an encoded attachment (source `Codec<AttachmentRecord>::encode`). -/
lemma fits_encode {value : AttachmentRecord} (h : TextFits value.note) : (encode value).Fits 2 := by
  refine fits_codecObject value.fields_ok (by simp [fields]) ?_
  simp [fields, h, value.slot.textFits]

/-- The weight of an encoded attachment (source `Codec<AttachmentRecord>::encode`). -/
lemma weight_encode_le (value : AttachmentRecord) :
    (encode value).weight ≤ 750 + value.note.length + value.slot.str.length := by
  refine (weight_codecObject_le value.fields_ok).trans ?_
  simp +arith only [fields, integerOf, Value.weight, List.map, List.sum_cons, List.sum_nil]

instance : LawfulCodec AttachmentRecord where
  Decodes := CountersFit
  Writes attachment := TextFits attachment.note
  levels := 2
  weight attachment := 750 + attachment.note.length + attachment.slot.str.length
  decode_encode := decode_encode
  canonical := canonical_encode
  fits := fits_encode
  weight_le := weight_encode_le

end AttachmentRecord

end TransceiverRegistry
