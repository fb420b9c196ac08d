import TransceiverRegistry.Snapshot.Records

/-!
# Laws of the snapshot records

Every record that is written is a canonical document.
-/

namespace TransceiverRegistry

open Lib

/-- The names of the members of an encoded latch record (source `encode_latch_record`). -/
lemma latchRecord_keysOk : keysOk ["latch", "lane", "metric"] = true := by decide +kernel

/-- The names of the members of an encoded source (source `encode_source`). -/
lemma source_keysOk : keysOk ["descriptor", "epoch", "generation", "id", "name",
    "registered_wall_ns", "sequence"] = true := by decide +kernel

/-- The names of the members of an encoded port (source `encode_port`). -/
lemma port_keysOk : keysOk ["declarations", "first_generation", "first_wall_ns", "key",
    "sequence"] = true := by decide +kernel

/-- The names of the members of an encoded threshold (source `encode_threshold`). -/
lemma threshold_keysOk : keysOk ["generation", "live", "sequence", "threshold"] = true := by
  decide +kernel

/-- The names of the encoded counters of a state (source `encode_state_header`). -/
lemma stateHeader_keysOk : keysOk ["conflicts_observed", "dropped_samples", "generation",
    "mutations", "next_module_uid", "next_rule_id", "next_sequence", "next_source_id",
    "registry_incarnation"] = true := by decide +kernel

/-- An encoded latch record is canonical (source `encode_latch_record`). -/
lemma canonical_encodeLatchRecord (record : HealthLatchRecord) :
    (encodeLatchRecord record).Canonical := by
  refine canonical_codecObject latchRecord_keysOk ?_
  simp [integerOf, Value.Canonical, LawfulCodec.canonical]

/-- An encoded source is canonical (source `encode_source`). -/
lemma canonical_encodeSource (source : SourceRecord) : (encodeSource source).Canonical := by
  refine canonical_codecObject source_keysOk ?_
  simp [integerOf, Value.Canonical, LawfulCodec.canonical]

/-- An encoded threshold is canonical (source `encode_threshold`). -/
lemma canonical_encodeThreshold (record : ThresholdRecord) :
    (encodeThreshold record).Canonical := by
  refine canonical_codecObject threshold_keysOk ?_
  simp [integerOf, Value.Canonical, LawfulCodec.canonical]

/-- The encoded counters of a state are canonical (source `encode_state_header`). -/
lemma canonical_encodeStateHeader (s : State) : (encodeStateHeader s).Canonical := by
  refine canonical_codecObject stateHeader_keysOk ?_
  simp [integerOf, Value.Canonical]

variable [StdSort]

/-- An encoded port is canonical (source `encode_port`). -/
lemma canonical_encodePort (record : PortRecord) : (encodePort record).Canonical := by
  refine canonical_codecObject port_keysOk ?_
  simp [integerOf, Value.Canonical, canonical_encodeRecordArray]

/-- The members of an encoded module have different names (source `encode_module`). -/
lemma ModuleRecord.fields_ok (record : ModuleRecord) :
    keysOk (record.fields.map Prod.fst) = true := by
  simp only [fields, List.map]
  decide +kernel

/-- An encoded module is canonical (source `encode_module`). -/
lemma canonical_encodeModule (includeHistory : Bool) (record : ModuleRecord) :
    (encodeModule includeHistory record).Canonical := by
  have latches : (Value.array ((record.stored includeHistory).latches.map
      encodeLatchRecord)).Canonical := by
    refine Value.elementsCanonical_iff.2 fun e member => ?_
    obtain ⟨latch, _, rfl⟩ := List.mem_map.1 member
    exact canonical_encodeLatchRecord latch
  refine canonical_codecObject (record.stored includeHistory).fields_ok ?_
  simp [ModuleRecord.fields, integerOf, Value.Canonical, canonical_encodeRecordArray]
  exact latches

end TransceiverRegistry
