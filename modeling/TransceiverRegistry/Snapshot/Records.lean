import TransceiverRegistry.Codec.Compatibility
import TransceiverRegistry.Codec.Health
import TransceiverRegistry.Codec.Lifecycle

/-!
# Records of a snapshot

Port of the record encoders and decoders of `snapshot.cpp`. The lists of a module are written in the
order of their sequence numbers, and without superseded claims and declarations when the history is
left out. Counters that the source reads with a fallback are never refused.
-/

namespace TransceiverRegistry

open Lib

/-- Encode a latch record (source `encode_latch_record`). -/
def encodeLatchRecord (record : HealthLatchRecord) : Value := codecObject [
  ("latch", encode record.latch),
  ("lane", integerOf record.lane.toNat),
  ("metric", integerOf (code record.metric))]

/-- Decode a latch record (source `decode_latch_record`). -/
def decodeLatchRecord (encoded : Value) : Result HealthLatchRecord := do
  let object ← asObject encoded "health latch record"
  let metric ← getEnum object "metric" "health metric"
  let lane ← getUnsigned object "lane"
  refuseIf (65535 < lane) (makeError .malformed "health latch lane is out of range")
  let latchEncoded ← orRefuse (object.find (text "latch"))
    (makeError .malformed "health latch record is missing its latch")
  let latch ← decode latchEncoded
  .ok { metric, lane := lane.toUInt16, latch }

/-- Encode a source record (source `encode_source`). -/
def encodeSource (source : SourceRecord) : Value := codecObject [
  ("descriptor", encode source.descriptor),
  ("epoch", integerOf source.epoch.toNat),
  ("generation", integerOf source.generation.toNat),
  ("id", integerOf source.id.toNat),
  ("name", .text source.name),
  ("registered_wall_ns", .integer source.registeredWallNs),
  ("sequence", integerOf source.sequence.toNat)]

/-- Decode a source record (source `decode_source`). -/
def decodeSource (encoded : Value) : Result SourceRecord := do
  let object ← asObject encoded "source record"
  let id ← getUnsigned object "id"
  let epoch ← getUnsigned object "epoch"
  refuseIf (id = 0 ∨ 0xFFFFFFFF < id ∨ epoch = 0 ∨ 0xFFFFFFFF < epoch)
    (makeError .malformed "source record ids are out of range")
  let name := getTextOr object "name" []
  refuseIf (name = []) (makeError .malformed "source record is missing its name")
  let descriptor ← match object.find (text "descriptor") with
    | some descriptor => decode descriptor
    | none => .ok ⟨[], [], .unsupported, []⟩
  .ok { id := id.toUInt32, name, epoch := epoch.toUInt32, descriptor,
        generation := getUnsignedOr object "generation" 0,
        sequence := getUnsignedOr object "sequence" 0,
        registeredWallNs := getIntegerOr object "registered_wall_ns" 0 }

/-- Claims by sequence number, then by value (source `encode_module`). -/
def claimBefore (lhs rhs : IdentityClaim) : Bool :=
  if lhs.sequence ≠ rhs.sequence then lhs.sequence < rhs.sequence
  else (compareBytes lhs.value rhs.value).isLT

/-- Declarations by sequence number, then by key (source `encode_module`). -/
def declarationBefore (lhs rhs : CapabilityDeclaration) : Bool :=
  if lhs.sequence ≠ rhs.sequence then lhs.sequence < rhs.sequence
  else code lhs.key < code rhs.key

/-- Samples by sequence number, then by time (source `encode_module`). -/
def sampleBefore (lhs rhs : HealthSample) : Bool :=
  if lhs.sequence ≠ rhs.sequence then lhs.sequence < rhs.sequence
  else lhs.observedAtWallNs < rhs.observedAtWallNs

/-- Events by sequence number, then by time (source `encode_module`). -/
def eventBefore (lhs rhs : LifecycleEvent) : Bool :=
  if lhs.sequence ≠ rhs.sequence then lhs.sequence < rhs.sequence
  else lhs.wallNs < rhs.wallNs

section Module

variable [StdSort]

/-- A module with its lists as they are written (source `encode_module`, the filters and sorts). -/
def ModuleRecord.stored (includeHistory : Bool) (record : ModuleRecord) : ModuleRecord :=
  { record with
    claims := StdSort.sort claimBefore (record.claims.filter fun c => includeHistory || c.live)
    declarations := StdSort.sort declarationBefore
      (record.declarations.filter fun d => includeHistory || d.live)
    samples := StdSort.sort sampleBefore record.samples
    lifecycle := StdSort.sort eventBefore record.lifecycle }

/-- The members of an encoded module (source `encode_module`, after the sorts). -/
def ModuleRecord.fields (record : ModuleRecord) : List (String × Value) := [
  ("key", .text record.key.str),
  ("uid", integerOf record.uid.toNat),
  ("incarnation", integerOf record.incarnation.toNat),
  ("incarnation_count", integerOf record.incarnationCount.toNat),
  ("state", integerOf (code record.state)),
  ("state_generation", integerOf record.stateGeneration.toNat),
  ("state_sequence", integerOf record.stateSequence.toNat),
  ("state_wall_ns", .integer record.stateWallNs),
  ("created_generation", integerOf record.createdGeneration.toNat),
  ("created_sequence", integerOf record.createdSequence.toNat),
  ("created_wall_ns", .integer record.createdWallNs),
  ("fenced_generation", integerOf record.fencedGeneration.toNat),
  ("claims", encodeRecordArray record.claims),
  ("declarations", encodeRecordArray record.declarations),
  ("samples", encodeRecordArray record.samples),
  ("latches", .array (record.latches.map encodeLatchRecord)),
  ("lifecycle", encodeRecordArray record.lifecycle)]

/-- Encode a module (source `encode_module`). -/
def encodeModule (includeHistory : Bool) (record : ModuleRecord) : Value :=
  codecObject (record.stored includeHistory).fields

/-- The number of samples of each series (source `decode_module`, `series_counts`). -/
def countSeries (samples : List HealthSample) : Std.ExtTreeMap SeriesKey UInt32 compareSeries :=
  samples.foldl (fun counts sample =>
    let key := seriesKey sample.metric sample.lane
    counts.insert key (counts.getD key 0 + 1)) ∅

/-- The event of a module that was stored without any (source `decode_module`). -/
def restoredEvent (state : LifecycleState) (incarnation : IncarnationId) (generation : Generation)
    (sequence : Sequence) (wallNs : WallNs) : LifecycleEvent where
  from_ := .discovered
  to_ := state
  incarnation := incarnation
  reason := text "restored from a snapshot that carried no lifecycle history"
  source := 0
  sourceEpoch := 0
  generation := generation
  sequence := sequence
  wallNs := wallNs

/-- Decode a module (source `decode_module`). -/
def decodeModule (encoded : Value) : Result ModuleRecord := do
  let object ← asObject encoded "module record"
  let keyText ← getText object "key"
  let key ← TextKey.parse keyText (text "module key")
  let uid ← getUnsigned object "uid"
  refuseIf (uid = 0) (makeError .malformed "module record has no identity")
  let incarnation ← getUnsigned object "incarnation"
  refuseIf (incarnation = 0 ∨ 0xFFFFFFFF < incarnation)
    (makeError .malformed "module incarnation is out of range")
  let state ← getEnum object "state" "lifecycle state"
  let stateGeneration := getUnsignedOr object "state_generation" 0
  let stateSequence := getUnsignedOr object "state_sequence" 0
  let stateWallNs := getIntegerOr object "state_wall_ns" 0
  let createdGeneration := getUnsignedOr object "created_generation" 0
  let createdSequence := getUnsignedOr object "created_sequence" 0
  let createdWallNs := getIntegerOr object "created_wall_ns" 0
  let fencedGeneration := getUnsignedOr object "fenced_generation" 0
  let incarnationCount := getUnsignedOr object "incarnation_count" 1
  refuseIf (incarnationCount = 0 ∨ 0xFFFFFFFF < incarnationCount)
    (makeError .malformed "module incarnation count is out of range")
  let claims ← decodeEach decode (getArrayOr object "claims")
  let declarations ← decodeEach decode (getArrayOr object "declarations")
  let samples ← decodeEach decode (getArrayOr object "samples")
  let latches ← decodeEach decodeLatchRecord (getArrayOr object "latches")
  let lifecycle ← decodeEach decode (getArrayOr object "lifecycle")
  let incarnation := incarnation.toUInt32
  .ok { key, uid, incarnation, state, stateGeneration, stateSequence, stateWallNs,
        createdGeneration, createdSequence, createdWallNs, fencedGeneration,
        incarnationCount := incarnationCount.toUInt32, claims, declarations, samples, latches,
        lifecycle := if lifecycle = [] then
          [restoredEvent state incarnation stateGeneration stateSequence createdWallNs]
          else lifecycle
        seriesCounts := countSeries samples }

/-- Encode a port (source `encode_port`). -/
def encodePort (record : PortRecord) : Value := codecObject [
  ("declarations", encodeRecordArray record.declarations),
  ("first_generation", integerOf record.firstGeneration.toNat),
  ("first_wall_ns", .integer record.firstWallNs),
  ("key", .text record.key.str),
  ("sequence", integerOf record.sequence.toNat)]

/-- Decode a port (source `decode_port`). -/
def decodePort (encoded : Value) : Result PortRecord := do
  let object ← asObject encoded "port record"
  let keyText ← getText object "key"
  let key ← TextKey.parse keyText (text "port key")
  let declarations ← decodeEach decode (getArrayOr object "declarations")
  .ok { key, firstGeneration := getUnsignedOr object "first_generation" 0,
        firstWallNs := getIntegerOr object "first_wall_ns" 0,
        sequence := getUnsignedOr object "sequence" 0, declarations }

end Module

/-- Encode a threshold record (source `encode_threshold`). -/
def encodeThreshold (record : ThresholdRecord) : Value := codecObject [
  ("generation", integerOf record.generation.toNat),
  ("live", .boolean record.live),
  ("sequence", integerOf record.sequence.toNat),
  ("threshold", encode record.threshold)]

/-- Decode a threshold record (source `decode_threshold`). -/
def decodeThreshold (encoded : Value) : Result ThresholdRecord := do
  let object ← asObject encoded "threshold record"
  let threshold ← orRefuse (object.find (text "threshold"))
    (makeError .malformed "threshold record is missing its threshold")
  let threshold ← decode threshold
  .ok { threshold, generation := getUnsignedOr object "generation" 0,
        sequence := getUnsignedOr object "sequence" 0, live := getBooleanOr object "live" true }

/-- Encode the counters of a state (source `encode_state_header`). -/
def encodeStateHeader (s : State) : Value := codecObject [
  ("conflicts_observed", integerOf s.conflictsObserved.toNat),
  ("dropped_samples", integerOf s.droppedSamples.toNat),
  ("generation", integerOf s.generation.toNat),
  ("mutations", integerOf s.mutations.toNat),
  ("next_module_uid", integerOf s.nextModuleUid.toNat),
  ("next_rule_id", integerOf s.nextRuleId.toNat),
  ("next_sequence", integerOf s.nextSequence.toNat),
  ("next_source_id", integerOf s.nextSourceId.toNat),
  ("registry_incarnation", integerOf s.registryIncarnation.toNat)]

/-- Decode the counters of a state (source `decode_state_header`). -/
def decodeStateHeader (encoded : Value) : Result State := do
  let object ← asObject encoded "state header"
  let incarnation ← getUnsigned object "registry_incarnation"
  refuseIf (incarnation = 0 ∨ 0xFFFFFFFF < incarnation)
    (makeError .malformed "registry incarnation is out of range")
  .ok { State.initial with
    generation := getUnsignedOr object "generation" 0
    registryIncarnation := incarnation.toUInt32
    nextModuleUid := getUnsignedOr object "next_module_uid" 1
    nextRuleId := getUnsignedOr object "next_rule_id" 1
    nextSourceId := getUnsignedOr object "next_source_id" 1
    nextSequence := getUnsignedOr object "next_sequence" 1
    mutations := getUnsignedOr object "mutations" 0
    droppedSamples := getUnsignedOr object "dropped_samples" 0
    conflictsObserved := getUnsignedOr object "conflicts_observed" 0 }

end TransceiverRegistry
