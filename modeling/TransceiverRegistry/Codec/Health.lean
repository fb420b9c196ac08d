import TransceiverRegistry.Codec.Identity
import TransceiverRegistry.Registry.State

/-!
# Codecs of health evidence

Port of the sample, threshold and latch codecs of `codec.cpp`. A threshold stores all four of its
bounds, and the decoder wants each of them finite, those of a band that is not in force included.
-/

namespace TransceiverRegistry

open Lib

namespace HealthSample

/-- The members of an encoded sample (source `Codec<HealthSample>::encode`). -/
def fields (value : HealthSample) : List (String × Value) := [
  ("clock_domain", .unsigned value.clockDomain),
  ("generation", integerOf value.generation.toNat),
  ("incarnation", integerOf value.incarnation.toNat),
  ("lane", integerOf value.lane.toNat),
  ("live", .boolean value.live),
  ("metric", integerOf (code value.metric)),
  ("module", integerOf value.module.toNat),
  ("observed_at_monotonic_ns", integerOf value.observedAtMonotonicNs.toNat),
  ("observed_at_wall_ns", .integer value.observedAtWallNs),
  ("presence", integerOf (code value.presence)),
  ("provenance", encode value.provenance),
  ("sequence", integerOf value.sequence.toNat),
  ("source", integerOf value.source.toNat),
  ("source_epoch", integerOf value.sourceEpoch.toNat),
  ("value", .real value.value)]

instance : Codec HealthSample where
  encode value := codecObject value.fields
  decode encoded := do
    let _ ← asObject encoded "health sample"
    let metric ← getEnum encoded "metric" "health metric"
    let lane ← getU16 encoded "lane"
    let presence ← getEnum encoded "presence" "sample presence"
    let value ← getFiniteReal encoded "value"
    let observedAtWallNs ← getInteger encoded "observed_at_wall_ns"
    let observedAtMonotonicNs ← getUnsigned encoded "observed_at_monotonic_ns"
    let clockDomain ← getUnsignedField encoded "clock_domain"
    let provenance ← getRecord encoded "provenance"
    let source ← getU32 encoded "source"
    let sourceEpoch ← getU32 encoded "source_epoch"
    let module ← getUnsigned encoded "module"
    let incarnation ← getU32 encoded "incarnation"
    let generation ← getUnsigned encoded "generation"
    let sequence ← getUnsigned encoded "sequence"
    let live ← getBoolean encoded "live"
    .ok { metric, lane, presence, value, observedAtWallNs, observedAtMonotonicNs, clockDomain,
          provenance, source, sourceEpoch, module, incarnation, generation, sequence, live }

/-- The measurement of a sample is finite and its counters are read back as they are. -/
structure Readable (sample : HealthSample) : Prop where
  value : sample.value.isFinite = true
  monotonic : sample.observedAtMonotonicNs.toNat < 2 ^ 63
  module : sample.module.toNat < 2 ^ 63
  generation : sample.generation.toNat < 2 ^ 63
  sequence : sample.sequence.toNat < 2 ^ 63

/-- A sample has room in a snapshot. -/
structure PartsFit (sample : HealthSample) : Prop where
  value : sample.value.isNaN = false
  provenance : sample.provenance.TextsFit

lemma fields_ok (value : HealthSample) : keysOk (value.fields.map Prod.fst) = true := by
  simp only [fields, List.map]
  decide +kernel

/-- A stored sample is read back when its numbers are readable
(source `Codec<HealthSample>::decode`). -/
lemma decode_encode {value read : HealthSample} :
    decode (encode value) = .ok read ↔ value.Readable ∧ read = value := by
  have holds {k x} (h : value.fields.lookup k = some x) : Holds (encode value) k x :=
    holds_codecObject value.fields_ok h
  simp only [decode, bind_eq_ok, asObject_eq (holds (k := "metric") rfl).object,
    getEnum_eq (holds (k := "metric") rfl), getU16_eq (holds (k := "lane") rfl),
    getEnum_eq (holds (k := "presence") rfl), getFiniteReal_eq_ok (holds (k := "value") rfl),
    getInteger_eq (holds (k := "observed_at_wall_ns") rfl),
    getUnsigned_counter (holds (k := "observed_at_monotonic_ns") rfl),
    getUnsignedField_eq (holds (k := "clock_domain") rfl),
    Provenance.getRecord_eq (holds (k := "provenance") rfl),
    getU32_eq (holds (k := "source") rfl), getU32_eq (holds (k := "source_epoch") rfl),
    getUnsigned_counter (holds (k := "module") rfl), getU32_eq (holds (k := "incarnation") rfl),
    getUnsigned_counter (holds (k := "generation") rfl),
    getUnsigned_counter (holds (k := "sequence") rfl), getBoolean_eq (holds (k := "live") rfl),
    Except.ok.injEq, exists_eq_left', and_assoc, exists_and_left, exists_eq_left, @eq_comm _ read]
  exact ⟨fun ⟨h1, h2, h3, h4, h5, e⟩ => ⟨⟨h1, h2, h3, h4, h5⟩, e⟩,
    fun ⟨⟨h1, h2, h3, h4, h5⟩, e⟩ => ⟨h1, h2, h3, h4, h5, e⟩⟩

/-- An encoded sample is canonical (source `Codec<HealthSample>::encode`). -/
lemma canonical_encode (value : HealthSample) : (encode value).Canonical := by
  refine canonical_codecObject value.fields_ok ?_
  simp [fields, integerOf, Value.Canonical, LawfulCodec.canonical]

/-- There is room for an encoded sample (source `Codec<HealthSample>::encode`). -/
lemma fits_encode {value : HealthSample} (h : value.PartsFit) : (encode value).Fits 3 := by
  refine fits_codecObject value.fields_ok (by simp [fields]) ?_
  simp [fields, h.value]
  exact Provenance.fits_encode h.provenance

/-- The weight of an encoded sample (source `Codec<HealthSample>::encode`). -/
lemma weight_encode_le (value : HealthSample) :
    (encode value).weight ≤ 1000 + LawfulCodec.weight value.provenance := by
  refine (weight_codecObject_le value.fields_ok).trans ?_
  have nested := LawfulCodec.weight_le value.provenance
  simp +arith only [fields, integerOf, Value.weight, List.map, List.sum_cons, List.sum_nil]
  omega

instance : LawfulCodec HealthSample where
  Decodes := Readable
  Writes := PartsFit
  levels := 3
  weight value := 1000 + LawfulCodec.weight value.provenance
  decode_encode := decode_encode
  canonical := canonical_encode
  fits := fits_encode
  weight_le := weight_encode_le

end HealthSample

namespace HealthThreshold

/-- The members of an encoded threshold (source `Codec<HealthThreshold>::encode`). -/
def fields (value : HealthThreshold) : List (String × Value) := [
  ("critical_enter", .real value.criticalEnter),
  ("critical_exit", .real value.criticalExit),
  ("degraded_enter", .real value.degradedEnter),
  ("degraded_exit", .real value.degradedExit),
  ("direction", integerOf (code value.direction)),
  ("disagreement_tolerance", .real value.disagreementTolerance),
  ("escalate_after", integerOf value.escalateAfter.toNat),
  ("generation", integerOf value.generation.toNat),
  ("has_critical", .boolean value.hasCritical),
  ("has_degraded", .boolean value.hasDegraded),
  ("lane", integerOf value.lane.toNat),
  ("live", .boolean value.live),
  ("max_age_ns", .integer value.maxAgeNs),
  ("metric", integerOf (code value.metric)),
  ("provenance", encode value.provenance),
  ("recover_after", integerOf value.recoverAfter.toNat),
  ("sequence", integerOf value.sequence.toNat),
  ("source", integerOf value.source.toNat),
  ("source_epoch", integerOf value.sourceEpoch.toNat)]

instance : Codec HealthThreshold where
  encode value := codecObject value.fields
  decode encoded := do
    let _ ← asObject encoded "health threshold"
    let metric ← getEnum encoded "metric" "health metric"
    let lane ← getU16 encoded "lane"
    let direction ← getEnum encoded "direction" "threshold direction"
    let hasDegraded ← getBoolean encoded "has_degraded"
    let degradedEnter ← getFiniteReal encoded "degraded_enter"
    let degradedExit ← getFiniteReal encoded "degraded_exit"
    let hasCritical ← getBoolean encoded "has_critical"
    let criticalEnter ← getFiniteReal encoded "critical_enter"
    let criticalExit ← getFiniteReal encoded "critical_exit"
    let escalateAfter ← getU32 encoded "escalate_after"
    let recoverAfter ← getU32 encoded "recover_after"
    let maxAgeNs ← getInteger encoded "max_age_ns"
    let disagreementTolerance ← getFiniteReal encoded "disagreement_tolerance"
    let provenance ← getRecord encoded "provenance"
    let source ← getU32 encoded "source"
    let sourceEpoch ← getU32 encoded "source_epoch"
    let generation ← getUnsigned encoded "generation"
    let sequence ← getUnsigned encoded "sequence"
    let live ← getBoolean encoded "live"
    .ok { metric, lane, direction, hasDegraded, degradedEnter, degradedExit, hasCritical,
          criticalEnter, criticalExit, escalateAfter, recoverAfter, maxAgeNs,
          disagreementTolerance, provenance, source, sourceEpoch, generation, sequence, live }

/-- The bounds of a threshold are finite and its counters are read back as they are. -/
structure Readable (threshold : HealthThreshold) : Prop where
  degradedEnter : threshold.degradedEnter.isFinite = true
  degradedExit : threshold.degradedExit.isFinite = true
  criticalEnter : threshold.criticalEnter.isFinite = true
  criticalExit : threshold.criticalExit.isFinite = true
  tolerance : threshold.disagreementTolerance.isFinite = true
  generation : threshold.generation.toNat < 2 ^ 63
  sequence : threshold.sequence.toNat < 2 ^ 63

/-- A threshold has room in a snapshot. -/
structure PartsFit (threshold : HealthThreshold) : Prop where
  degradedEnter : threshold.degradedEnter.isNaN = false
  degradedExit : threshold.degradedExit.isNaN = false
  criticalEnter : threshold.criticalEnter.isNaN = false
  criticalExit : threshold.criticalExit.isNaN = false
  tolerance : threshold.disagreementTolerance.isNaN = false
  provenance : threshold.provenance.TextsFit

lemma fields_ok (value : HealthThreshold) : keysOk (value.fields.map Prod.fst) = true := by
  simp only [fields, List.map]
  decide +kernel

/-- A stored threshold is read back when its numbers are readable
(source `Codec<HealthThreshold>::decode`). -/
lemma decode_encode {value read : HealthThreshold} :
    decode (encode value) = .ok read ↔ value.Readable ∧ read = value := by
  have holds {k x} (h : value.fields.lookup k = some x) : Holds (encode value) k x :=
    holds_codecObject value.fields_ok h
  simp only [decode, bind_eq_ok, asObject_eq (holds (k := "metric") rfl).object,
    getEnum_eq (holds (k := "metric") rfl), getU16_eq (holds (k := "lane") rfl),
    getEnum_eq (holds (k := "direction") rfl), getBoolean_eq (holds (k := "has_degraded") rfl),
    getFiniteReal_eq_ok (holds (k := "degraded_enter") rfl),
    getFiniteReal_eq_ok (holds (k := "degraded_exit") rfl),
    getBoolean_eq (holds (k := "has_critical") rfl),
    getFiniteReal_eq_ok (holds (k := "critical_enter") rfl),
    getFiniteReal_eq_ok (holds (k := "critical_exit") rfl),
    getU32_eq (holds (k := "escalate_after") rfl), getU32_eq (holds (k := "recover_after") rfl),
    getInteger_eq (holds (k := "max_age_ns") rfl),
    getFiniteReal_eq_ok (holds (k := "disagreement_tolerance") rfl),
    Provenance.getRecord_eq (holds (k := "provenance") rfl),
    getU32_eq (holds (k := "source") rfl), getU32_eq (holds (k := "source_epoch") rfl),
    getUnsigned_counter (holds (k := "generation") rfl),
    getUnsigned_counter (holds (k := "sequence") rfl), getBoolean_eq (holds (k := "live") rfl),
    Except.ok.injEq, exists_eq_left', and_assoc, exists_and_left, exists_eq_left, @eq_comm _ read]
  exact ⟨fun ⟨h1, h2, h3, h4, h5, h6, h7, e⟩ => ⟨⟨h1, h2, h3, h4, h5, h6, h7⟩, e⟩,
    fun ⟨⟨h1, h2, h3, h4, h5, h6, h7⟩, e⟩ => ⟨h1, h2, h3, h4, h5, h6, h7, e⟩⟩

/-- An encoded threshold is canonical (source `Codec<HealthThreshold>::encode`). -/
lemma canonical_encode (value : HealthThreshold) : (encode value).Canonical := by
  refine canonical_codecObject value.fields_ok ?_
  simp [fields, integerOf, Value.Canonical, LawfulCodec.canonical]

/-- There is room for an encoded threshold (source `Codec<HealthThreshold>::encode`). -/
lemma fits_encode {value : HealthThreshold} (h : value.PartsFit) : (encode value).Fits 3 := by
  refine fits_codecObject value.fields_ok (by simp [fields]) ?_
  simp [fields, h.degradedEnter, h.degradedExit, h.criticalEnter, h.criticalExit, h.tolerance]
  exact Provenance.fits_encode h.provenance

/-- The weight of an encoded threshold (source `Codec<HealthThreshold>::encode`). -/
lemma weight_encode_le (value : HealthThreshold) :
    (encode value).weight ≤ 1300 + LawfulCodec.weight value.provenance := by
  refine (weight_codecObject_le value.fields_ok).trans ?_
  have nested := LawfulCodec.weight_le value.provenance
  simp +arith only [fields, integerOf, Value.weight, List.map, List.sum_cons, List.sum_nil]
  omega

instance : LawfulCodec HealthThreshold where
  Decodes := Readable
  Writes := PartsFit
  levels := 3
  weight value := 1300 + LawfulCodec.weight value.provenance
  decode_encode := decode_encode
  canonical := canonical_encode
  fits := fits_encode
  weight_le := weight_encode_le

end HealthThreshold

namespace HealthLatch

/-- The members of an encoded latch (source `Codec<HealthLatch>::encode`). -/
def fields (value : HealthLatch) : List (String × Value) := [
  ("consecutive", integerOf value.consecutive.toNat),
  ("last_sample_sequence", integerOf value.lastSampleSequence.toNat),
  ("last_sample_wall_ns", .integer value.lastSampleWallNs),
  ("last_transition_generation", integerOf value.lastTransitionGeneration.toNat),
  ("last_transition_wall_ns", .integer value.lastTransitionWallNs),
  ("state", integerOf (code value.state))]

instance : Codec HealthLatch where
  encode value := codecObject value.fields
  decode encoded := do
    let _ ← asObject encoded "health latch"
    let state ← getEnum encoded "state" "metric state"
    let consecutive ← getU32 encoded "consecutive"
    let lastSampleWallNs ← getInteger encoded "last_sample_wall_ns"
    let lastSampleSequence ← getUnsigned encoded "last_sample_sequence"
    let lastTransitionGeneration ← getUnsigned encoded "last_transition_generation"
    let lastTransitionWallNs ← getInteger encoded "last_transition_wall_ns"
    .ok { state, consecutive, lastSampleWallNs, lastSampleSequence, lastTransitionGeneration,
          lastTransitionWallNs }

/-- The counters of a latch are read back as they are. -/
structure CountersFit (latch : HealthLatch) : Prop where
  sequence : latch.lastSampleSequence.toNat < 2 ^ 63
  generation : latch.lastTransitionGeneration.toNat < 2 ^ 63

lemma fields_ok (value : HealthLatch) : keysOk (value.fields.map Prod.fst) = true := by
  simp only [fields, List.map]
  decide +kernel

/-- A stored latch is read back when its counters fit (source `Codec<HealthLatch>::decode`). -/
lemma decode_encode {value read : HealthLatch} :
    decode (encode value) = .ok read ↔ value.CountersFit ∧ read = value := by
  have holds {k x} (h : value.fields.lookup k = some x) : Holds (encode value) k x :=
    holds_codecObject value.fields_ok h
  simp only [decode, bind_eq_ok, asObject_eq (holds (k := "state") rfl).object,
    getEnum_eq (holds (k := "state") rfl), getU32_eq (holds (k := "consecutive") rfl),
    getInteger_eq (holds (k := "last_sample_wall_ns") rfl),
    getUnsigned_counter (holds (k := "last_sample_sequence") rfl),
    getUnsigned_counter (holds (k := "last_transition_generation") rfl),
    getInteger_eq (holds (k := "last_transition_wall_ns") rfl),
    Except.ok.injEq, exists_eq_left', and_assoc, exists_and_left, exists_eq_left, @eq_comm _ read]
  exact ⟨fun ⟨h1, h2, e⟩ => ⟨⟨h1, h2⟩, e⟩, fun ⟨⟨h1, h2⟩, e⟩ => ⟨h1, h2, e⟩⟩

/-- An encoded latch is canonical (source `Codec<HealthLatch>::encode`). -/
lemma canonical_encode (value : HealthLatch) : (encode value).Canonical := by
  refine canonical_codecObject value.fields_ok ?_
  simp [fields, integerOf, Value.Canonical]

/-- There is room for an encoded latch (source `Codec<HealthLatch>::encode`). -/
lemma fits_encode {value : HealthLatch} : (encode value).Fits 2 := by
  refine fits_codecObject value.fields_ok (by simp [fields]) ?_
  simp [fields]

/-- The weight of an encoded latch (source `Codec<HealthLatch>::encode`). -/
lemma weight_encode_le (value : HealthLatch) : (encode value).weight ≤ 400 := by
  refine (weight_codecObject_le value.fields_ok).trans ?_
  simp only [fields, integerOf, Value.weight, List.map, List.sum_cons, List.sum_nil]
  decide

instance : LawfulCodec HealthLatch where
  Decodes := CountersFit
  Writes _ := True
  levels := 2
  weight _ := 400
  decode_encode := decode_encode
  canonical := canonical_encode
  fits _ := fits_encode
  weight_le := weight_encode_le

end HealthLatch

end TransceiverRegistry
