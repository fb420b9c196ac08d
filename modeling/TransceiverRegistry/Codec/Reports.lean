import TransceiverRegistry.Registry.Inspection

/-!
# Codecs of reports

Port of the codecs of `codec.cpp` for measurements handed in, health reports and the aggregate
reports. A health report is sent with the integer widths of the source, which the evaluation of
health leaves out.
-/

namespace TransceiverRegistry

open Lib

/-- The codes of `HealthIssueKind` fit in a byte. -/
lemma HealthIssueKind.fits_byte : 10 < 256 := by decide

instance : WireEnum HealthIssueKind where
  code := HealthIssueKind.ctorIdx
  last := 10
  ofCode := HealthIssueKind.ofNat
  last_lt := HealthIssueKind.fits_byte
  code_le a := by cases a <;> decide
  ofCode_code := HealthIssueKind.ofNat_ctorIdx
  code_ofCode := by decide

/-- One row of a report as it is sent (source `MetricHealth`). -/
structure MetricHealthRow where
  metric : HealthMetric
  lane : UInt16
  state : MetricState
  hasValue : Bool
  value : Binary64
  hasAge : Bool
  ageNs : WallNs
  sampleCount : Int64
  freshCount : Int64
  staleCount : Int64
  fencedCount : Int64
  sourceCount : UInt32
  reason : Bytes

/-- The health of a module as it is sent (source `HealthReport`). -/
structure SentHealthReport where
  uid : ModuleUid
  incarnation : IncarnationId
  generation : Generation
  outcome : HealthOutcome
  worst : MetricState
  metrics : List MetricHealthRow
  issues : List HealthIssue
  evaluatedAtWallNs : WallNs
  clockDomain : ClockDomainId
  digest : Digest

/-- What a snapshot held when it was loaded (source `LoadReport`). -/
structure LoadReport where
  formatVersion : UInt16
  generation : Generation
  registryIncarnation : UInt32
  modules : UInt64
  incarnations : UInt64
  sources : UInt64
  ports : UInt64
  rules : UInt64
  thresholds : UInt64
  claims : UInt64
  declarations : UInt64
  samples : UInt64
  fencedIncarnations : UInt64
  evidenceInvalidatedOnLoad : UInt64
  tailRecovered : Bool
  droppedTailBytes : UInt64
  recoveryNote : Bytes
  contentDigest : Digest
  loadedAtWallNs : WallNs

/-- The row with the widths of the source (source `MetricHealth`). -/
def MetricHealth.sent (row : MetricHealth) : MetricHealthRow where
  metric := row.metric
  lane := row.lane
  state := row.state
  hasValue := row.hasValue
  value := row.value
  hasAge := row.hasAge
  ageNs := Int64.ofInt row.ageNs
  sampleCount := Int64.ofNat row.sampleCount
  freshCount := Int64.ofNat row.freshCount
  staleCount := Int64.ofNat row.staleCount
  fencedCount := Int64.ofNat row.fencedCount
  sourceCount := UInt32.ofNat row.sourceCount
  reason := row.reason

/-- The report with the widths of the source (source `HealthReport`). -/
def HealthReport.sent (report : HealthReport) : SentHealthReport where
  uid := report.uid
  incarnation := report.incarnation
  generation := report.generation
  outcome := report.outcome
  worst := report.worst
  metrics := report.metrics.map MetricHealth.sent
  issues := report.issues
  evaluatedAtWallNs := report.evaluatedAtWallNs
  clockDomain := report.clockDomain
  digest := report.digest

namespace HealthSampleInput

/-- The members of an encoded measurement (source `Codec<HealthSampleInput>::encode`). -/
def fields (value : HealthSampleInput) : List (String × Value) := [
  ("clock_domain", .unsigned value.clockDomain),
  ("lane", integerOf value.lane.toNat),
  ("metric", integerOf (code value.metric)),
  ("observed_at_monotonic_ns", integerOf value.observedAtMonotonicNs.toNat),
  ("observed_at_wall_ns", .integer value.observedAtWallNs),
  ("presence", integerOf (code value.presence)),
  ("provenance", encode value.provenance),
  ("value", .real value.value)]

instance : Codec HealthSampleInput where
  encode value := codecObject value.fields
  decode encoded := do
    let _ ← asObject encoded "health sample input"
    let metric ← getEnum encoded "metric" "health metric"
    let lane ← getU16 encoded "lane"
    let presence ← getEnum encoded "presence" "sample presence"
    let value ← getFiniteReal encoded "value"
    let observedAtWallNs ← getInteger encoded "observed_at_wall_ns"
    let observedAtMonotonicNs ← getUnsigned encoded "observed_at_monotonic_ns"
    let clockDomain ← getUnsignedField encoded "clock_domain"
    let provenance ← getRecord encoded "provenance"
    .ok { metric, lane, presence, value, observedAtWallNs, observedAtMonotonicNs, clockDomain,
          provenance }

/-- The numbers of a measurement are sent as they are. -/
structure Readable (sample : HealthSampleInput) : Prop where
  value : sample.value.isFinite = true
  monotonic : sample.observedAtMonotonicNs.toNat < 2 ^ 63

lemma fields_ok (value : HealthSampleInput) : keysOk (value.fields.map Prod.fst) = true := by
  simp only [fields, List.map]
  decide +kernel

/-- A measurement is read back when its numbers are (source `Codec<HealthSampleInput>::decode`). -/
lemma decode_encode {value read : HealthSampleInput} :
    decode (encode value) = .ok read ↔ value.Readable ∧ read = value := by
  have holds {k x} (h : value.fields.lookup k = some x) : Holds (encode value) k x :=
    holds_codecObject value.fields_ok h
  simp only [decode, bind_eq_ok, asObject_eq (holds (k := "metric") rfl).object,
    getEnum_eq (holds (k := "metric") rfl), getU16_eq (holds (k := "lane") rfl),
    getEnum_eq (holds (k := "presence") rfl), getFiniteReal_eq_ok (holds (k := "value") rfl),
    getInteger_eq (holds (k := "observed_at_wall_ns") rfl),
    getUnsigned_counter (holds (k := "observed_at_monotonic_ns") rfl),
    getUnsignedField_eq (holds (k := "clock_domain") rfl),
    Provenance.getRecord_eq (holds (k := "provenance") rfl), Except.ok.injEq, exists_eq_left',
    and_assoc, exists_and_left, exists_eq_left, @eq_comm _ read]
  exact ⟨fun ⟨h1, h2, e⟩ => ⟨⟨h1, h2⟩, e⟩, fun ⟨⟨h1, h2⟩, e⟩ => ⟨h1, h2, e⟩⟩

end HealthSampleInput

namespace MetricHealthRow

/-- The members of an encoded row (source `Codec<MetricHealth>::encode`). -/
def fields (value : MetricHealthRow) : List (String × Value) := [
  ("age_ns", .integer value.ageNs),
  ("fenced_count", .integer value.fencedCount),
  ("fresh_count", .integer value.freshCount),
  ("has_age", .boolean value.hasAge),
  ("has_value", .boolean value.hasValue),
  ("lane", integerOf value.lane.toNat),
  ("metric", integerOf (code value.metric)),
  ("reason", .text value.reason),
  ("sample_count", .integer value.sampleCount),
  ("source_count", integerOf value.sourceCount.toNat),
  ("stale_count", .integer value.staleCount),
  ("state", integerOf (code value.state)),
  ("value", .real value.value)]

instance : Codec MetricHealthRow where
  encode value := codecObject value.fields
  decode encoded := do
    let _ ← asObject encoded "metric health"
    let metric ← getEnum encoded "metric" "health metric"
    let lane ← getU16 encoded "lane"
    let state ← getEnum encoded "state" "metric state"
    let hasValue ← getBoolean encoded "has_value"
    let value ← getFiniteReal encoded "value"
    let hasAge ← getBoolean encoded "has_age"
    let ageNs ← getInteger encoded "age_ns"
    let sampleCount ← getInteger encoded "sample_count"
    let freshCount ← getInteger encoded "fresh_count"
    let staleCount ← getInteger encoded "stale_count"
    let fencedCount ← getInteger encoded "fenced_count"
    let sourceCount ← getU32 encoded "source_count"
    let reason ← getText encoded "reason"
    .ok { metric, lane, state, hasValue, value, hasAge, ageNs, sampleCount, freshCount, staleCount,
          fencedCount, sourceCount, reason }

/-- The value of a row is sent as it is. -/
def Readable (row : MetricHealthRow) : Prop := row.value.isFinite = true

lemma fields_ok (value : MetricHealthRow) : keysOk (value.fields.map Prod.fst) = true := by
  simp only [fields, List.map]
  decide +kernel

/-- A row is read back when its value is finite (source `Codec<MetricHealth>::decode`). -/
lemma decode_encode {value read : MetricHealthRow} :
    decode (encode value) = .ok read ↔ value.Readable ∧ read = value := by
  have holds {k x} (h : value.fields.lookup k = some x) : Holds (encode value) k x :=
    holds_codecObject value.fields_ok h
  simp only [decode, bind_eq_ok, asObject_eq (holds (k := "metric") rfl).object,
    getEnum_eq (holds (k := "metric") rfl), getU16_eq (holds (k := "lane") rfl),
    getEnum_eq (holds (k := "state") rfl), getBoolean_eq (holds (k := "has_value") rfl),
    getFiniteReal_eq_ok (holds (k := "value") rfl), getBoolean_eq (holds (k := "has_age") rfl),
    getInteger_eq (holds (k := "age_ns") rfl), getInteger_eq (holds (k := "sample_count") rfl),
    getInteger_eq (holds (k := "fresh_count") rfl), getInteger_eq (holds (k := "stale_count") rfl),
    getInteger_eq (holds (k := "fenced_count") rfl), getU32_eq (holds (k := "source_count") rfl),
    getText_eq (holds (k := "reason") rfl), Except.ok.injEq, exists_eq_left', and_assoc,
    exists_and_left, exists_eq_left, @eq_comm _ read]
  rfl

end MetricHealthRow

namespace HealthIssue

/-- The members of an encoded complaint (source `Codec<HealthIssue>::encode`). -/
def fields (value : HealthIssue) : List (String × Value) := [
  ("detail", .text value.detail),
  ("kind", integerOf (code value.kind)),
  ("lane", integerOf value.lane.toNat),
  ("metric", integerOf (code value.metric))]

instance : Codec HealthIssue where
  encode value := codecObject value.fields
  decode encoded := do
    let _ ← asObject encoded "health issue"
    let kind ← getEnum encoded "kind" "health issue kind"
    let metric ← getEnum encoded "metric" "health metric"
    let lane ← getU16 encoded "lane"
    let detail ← getText encoded "detail"
    .ok { kind, metric, lane, detail }

lemma fields_ok (value : HealthIssue) : keysOk (value.fields.map Prod.fst) = true := by
  simp only [fields, List.map]
  decide +kernel

/-- A complaint is read back (source `Codec<HealthIssue>::decode`). -/
lemma decode_encode {value read : HealthIssue} :
    decode (encode value) = .ok read ↔ read = value := by
  have holds {k x} (h : value.fields.lookup k = some x) : Holds (encode value) k x :=
    holds_codecObject value.fields_ok h
  simp only [decode, bind_eq_ok, asObject_eq (holds (k := "kind") rfl).object,
    getEnum_eq (holds (k := "kind") rfl), getEnum_eq (holds (k := "metric") rfl),
    getU16_eq (holds (k := "lane") rfl), getText_eq (holds (k := "detail") rfl), Except.ok.injEq,
    exists_eq_left', @eq_comm _ read]

end HealthIssue

namespace SentHealthReport

/-- The members of an encoded report (source `Codec<HealthReport>::encode`). -/
def fields (value : SentHealthReport) : List (String × Value) := [
  ("clock_domain", .unsigned value.clockDomain),
  ("digest", .text value.digest.toHex),
  ("evaluated_at_wall_ns", .integer value.evaluatedAtWallNs),
  ("generation", integerOf value.generation.toNat),
  ("incarnation", integerOf value.incarnation.toNat),
  ("issues", encodeRecordArray value.issues),
  ("metrics", encodeRecordArray value.metrics),
  ("outcome", integerOf (code value.outcome)),
  ("uid", integerOf value.uid.toNat),
  ("worst", integerOf (code value.worst))]

instance : Codec SentHealthReport where
  encode value := codecObject value.fields
  decode encoded := do
    let _ ← asObject encoded "health report"
    let uid ← getUnsigned encoded "uid"
    let incarnation ← getU32 encoded "incarnation"
    let generation ← getUnsigned encoded "generation"
    let outcome ← getEnum encoded "outcome" "health outcome"
    let worst ← getEnum encoded "worst" "metric state"
    let metrics ← getRecordArray encoded "metrics"
    let issues ← getRecordArray encoded "issues"
    let evaluatedAtWallNs ← getInteger encoded "evaluated_at_wall_ns"
    let clockDomain ← getUnsignedField encoded "clock_domain"
    let digest ← getDigestField encoded "digest"
    .ok { uid, incarnation, generation, outcome, worst, metrics, issues, evaluatedAtWallNs,
          clockDomain, digest }

/-- The counters and the rows of a report are sent as they are. -/
structure Readable (report : SentHealthReport) : Prop where
  uid : report.uid.toNat < 2 ^ 63
  generation : report.generation.toNat < 2 ^ 63
  metrics : ∀ row ∈ report.metrics, row.Readable

lemma fields_ok (value : SentHealthReport) : keysOk (value.fields.map Prod.fst) = true := by
  simp only [fields, List.map]
  decide +kernel

/-- A report is read back when its parts are (source `Codec<HealthReport>::decode`). -/
lemma decode_encode {value read : SentHealthReport} :
    decode (encode value) = .ok read ↔ value.Readable ∧ read = value := by
  have holds {k x} (h : value.fields.lookup k = some x) : Holds (encode value) k x :=
    holds_codecObject value.fields_ok h
  have row (a b : MetricHealthRow) : decode (encode a) = .ok b ↔ a.Readable ∧ b = a :=
    MetricHealthRow.decode_encode
  have issue (a b : HealthIssue) : decode (encode a) = .ok b ↔ True ∧ b = a := by
    rw [HealthIssue.decode_encode, true_and]
  simp only [decode, bind_eq_ok, asObject_eq (holds (k := "uid") rfl).object,
    getUnsigned_counter (holds (k := "uid") rfl), getU32_eq (holds (k := "incarnation") rfl),
    getUnsigned_counter (holds (k := "generation") rfl), getEnum_eq (holds (k := "outcome") rfl),
    getEnum_eq (holds (k := "worst") rfl), getRecordArray_iff row (holds (k := "metrics") rfl),
    getRecordArray_iff issue (holds (k := "issues") rfl),
    getInteger_eq (holds (k := "evaluated_at_wall_ns") rfl),
    getUnsignedField_eq (holds (k := "clock_domain") rfl),
    getDigestField_eq (holds (k := "digest") rfl), Except.ok.injEq, exists_eq_left', implies_true,
    true_and, and_assoc, exists_and_left, exists_eq_left, @eq_comm _ read]
  exact ⟨fun ⟨h1, h2, h3, e⟩ => ⟨⟨h1, h2, h3⟩, e⟩, fun ⟨⟨h1, h2, h3⟩, e⟩ => ⟨h1, h2, h3, e⟩⟩

end SentHealthReport

namespace EvidenceSummary

/-- The members of an encoded summary (source `Codec<EvidenceSummary>::encode`). -/
def fields (value : EvidenceSummary) : List (String × Value) := [
  ("conflicting_attributes", integerOf value.conflictingAttributes.toNat),
  ("digest", .text value.digest.toHex),
  ("fenced_samples", integerOf value.fencedSamples.toNat),
  ("generation", integerOf value.generation.toNat),
  ("incarnation", integerOf value.incarnation.toNat),
  ("live_claims", integerOf value.liveClaims.toNat),
  ("live_declarations", integerOf value.liveDeclarations.toNat),
  ("live_samples", integerOf value.liveSamples.toNat),
  ("newest_sample_wall_ns", .integer value.newestSampleWallNs),
  ("oldest_sample_wall_ns", .integer value.oldestSampleWallNs),
  ("stale_samples", integerOf value.staleSamples.toNat),
  ("superseded_claims", integerOf value.supersededClaims.toNat),
  ("superseded_declarations", integerOf value.supersededDeclarations.toNat),
  ("uid", integerOf value.uid.toNat)]

instance : Codec EvidenceSummary where
  encode value := codecObject value.fields
  decode encoded := do
    let _ ← asObject encoded "evidence summary"
    let uid ← getUnsigned encoded "uid"
    let incarnation ← getU32 encoded "incarnation"
    let generation ← getUnsigned encoded "generation"
    let liveClaims ← getUnsigned encoded "live_claims"
    let supersededClaims ← getUnsigned encoded "superseded_claims"
    let liveDeclarations ← getUnsigned encoded "live_declarations"
    let supersededDeclarations ← getUnsigned encoded "superseded_declarations"
    let liveSamples ← getUnsigned encoded "live_samples"
    let staleSamples ← getUnsigned encoded "stale_samples"
    let fencedSamples ← getUnsigned encoded "fenced_samples"
    let conflictingAttributes ← getU32 encoded "conflicting_attributes"
    let oldestSampleWallNs ← getInteger encoded "oldest_sample_wall_ns"
    let newestSampleWallNs ← getInteger encoded "newest_sample_wall_ns"
    let digest ← getDigestField encoded "digest"
    .ok { uid, incarnation, generation, liveClaims, supersededClaims, liveDeclarations,
          supersededDeclarations, liveSamples, staleSamples, fencedSamples, conflictingAttributes,
          oldestSampleWallNs, newestSampleWallNs, digest }

/-- The 64-bit counters of a summary. -/
def counters (summary : EvidenceSummary) : List UInt64 := [
  summary.uid, summary.generation, summary.liveClaims, summary.supersededClaims,
  summary.liveDeclarations, summary.supersededDeclarations, summary.liveSamples,
  summary.staleSamples, summary.fencedSamples]

/-- The counters of a summary are sent as they are. -/
def Readable (summary : EvidenceSummary) : Prop := ∀ n ∈ summary.counters, n.toNat < 2 ^ 63

lemma fields_ok (value : EvidenceSummary) : keysOk (value.fields.map Prod.fst) = true := by
  simp only [fields, List.map]
  decide +kernel

/-- A summary is read back when its counters fit (source `Codec<EvidenceSummary>::decode`). -/
lemma decode_encode {value read : EvidenceSummary} :
    decode (encode value) = .ok read ↔ value.Readable ∧ read = value := by
  have holds {k x} (h : value.fields.lookup k = some x) : Holds (encode value) k x :=
    holds_codecObject value.fields_ok h
  simp only [decode, bind_eq_ok, asObject_eq (holds (k := "uid") rfl).object,
    getUnsigned_counter (holds (k := "uid") rfl), getU32_eq (holds (k := "incarnation") rfl),
    getUnsigned_counter (holds (k := "generation") rfl),
    getUnsigned_counter (holds (k := "live_claims") rfl),
    getUnsigned_counter (holds (k := "superseded_claims") rfl),
    getUnsigned_counter (holds (k := "live_declarations") rfl),
    getUnsigned_counter (holds (k := "superseded_declarations") rfl),
    getUnsigned_counter (holds (k := "live_samples") rfl),
    getUnsigned_counter (holds (k := "stale_samples") rfl),
    getUnsigned_counter (holds (k := "fenced_samples") rfl),
    getU32_eq (holds (k := "conflicting_attributes") rfl),
    getInteger_eq (holds (k := "oldest_sample_wall_ns") rfl),
    getInteger_eq (holds (k := "newest_sample_wall_ns") rfl),
    getDigestField_eq (holds (k := "digest") rfl), Except.ok.injEq, exists_eq_left', Readable,
    counters, List.forall_mem_cons, List.not_mem_nil, false_imp_iff, implies_true, and_true,
    and_assoc, exists_and_left, exists_eq_left, @eq_comm _ read]

end EvidenceSummary

namespace RegistryStats

/-- The members of encoded statistics (source `Codec<RegistryStats>::encode`). -/
def fields (value : RegistryStats) : List (String × Value) := [
  ("attachments", integerOf value.attachments.toNat),
  ("claims", integerOf value.claims.toNat),
  ("conflicts_observed", integerOf value.conflictsObserved.toNat),
  ("declarations", integerOf value.declarations.toNat),
  ("fenced_incarnations", integerOf value.fencedIncarnations.toNat),
  ("generation", integerOf value.generation.toNat),
  ("incarnations", integerOf value.incarnations.toNat),
  ("live_attachments", integerOf value.liveAttachments.toNat),
  ("modules", integerOf value.modules.toNat),
  ("mutations", integerOf value.mutations.toNat),
  ("ports", integerOf value.ports.toNat),
  ("queries", integerOf value.queries.toNat),
  ("refusals", integerOf value.refusals.toNat),
  ("registry_incarnation", integerOf value.registryIncarnation.toNat),
  ("rules", integerOf value.rules.toNat),
  ("samples", integerOf value.samples.toNat),
  ("sources", integerOf value.sources.toNat),
  ("state_digest", .text value.stateDigest.toHex),
  ("thresholds", integerOf value.thresholds.toNat)]

instance : Codec RegistryStats where
  encode value := codecObject value.fields
  decode encoded := do
    let _ ← asObject encoded "registry stats"
    let generation ← getUnsigned encoded "generation"
    let registryIncarnation ← getU32 encoded "registry_incarnation"
    let sources ← getUnsigned encoded "sources"
    let modules ← getUnsigned encoded "modules"
    let incarnations ← getUnsigned encoded "incarnations"
    let fencedIncarnations ← getUnsigned encoded "fenced_incarnations"
    let ports ← getUnsigned encoded "ports"
    let rules ← getUnsigned encoded "rules"
    let thresholds ← getUnsigned encoded "thresholds"
    let attachments ← getUnsigned encoded "attachments"
    let liveAttachments ← getUnsigned encoded "live_attachments"
    let claims ← getUnsigned encoded "claims"
    let declarations ← getUnsigned encoded "declarations"
    let samples ← getUnsigned encoded "samples"
    let mutations ← getUnsigned encoded "mutations"
    let refusals ← getUnsigned encoded "refusals"
    let queries ← getUnsigned encoded "queries"
    let conflictsObserved ← getUnsigned encoded "conflicts_observed"
    let stateDigest ← getDigestField encoded "state_digest"
    .ok { generation, registryIncarnation, sources, modules, incarnations, fencedIncarnations,
          ports, rules, thresholds, attachments, liveAttachments, claims, declarations, samples,
          mutations, refusals, queries, conflictsObserved, stateDigest }

/-- The 64-bit counters of the statistics. -/
def counters (stats : RegistryStats) : List UInt64 := [
  stats.generation, stats.sources, stats.modules, stats.incarnations, stats.fencedIncarnations,
  stats.ports, stats.rules, stats.thresholds, stats.attachments, stats.liveAttachments,
  stats.claims, stats.declarations, stats.samples, stats.mutations, stats.refusals, stats.queries,
  stats.conflictsObserved]

/-- The counters of the statistics are sent as they are. -/
def Readable (stats : RegistryStats) : Prop := ∀ n ∈ stats.counters, n.toNat < 2 ^ 63

lemma fields_ok (value : RegistryStats) : keysOk (value.fields.map Prod.fst) = true := by
  simp only [fields, List.map]
  decide +kernel

/-- Statistics are read back when their counters fit (source `Codec<RegistryStats>::decode`). -/
lemma decode_encode {value read : RegistryStats} :
    decode (encode value) = .ok read ↔ value.Readable ∧ read = value := by
  have holds {k x} (h : value.fields.lookup k = some x) : Holds (encode value) k x :=
    holds_codecObject value.fields_ok h
  simp only [decode, bind_eq_ok, asObject_eq (holds (k := "generation") rfl).object,
    getUnsigned_counter (holds (k := "generation") rfl),
    getU32_eq (holds (k := "registry_incarnation") rfl),
    getUnsigned_counter (holds (k := "sources") rfl),
    getUnsigned_counter (holds (k := "modules") rfl),
    getUnsigned_counter (holds (k := "incarnations") rfl),
    getUnsigned_counter (holds (k := "fenced_incarnations") rfl),
    getUnsigned_counter (holds (k := "ports") rfl), getUnsigned_counter (holds (k := "rules") rfl),
    getUnsigned_counter (holds (k := "thresholds") rfl),
    getUnsigned_counter (holds (k := "attachments") rfl),
    getUnsigned_counter (holds (k := "live_attachments") rfl),
    getUnsigned_counter (holds (k := "claims") rfl),
    getUnsigned_counter (holds (k := "declarations") rfl),
    getUnsigned_counter (holds (k := "samples") rfl),
    getUnsigned_counter (holds (k := "mutations") rfl),
    getUnsigned_counter (holds (k := "refusals") rfl),
    getUnsigned_counter (holds (k := "queries") rfl),
    getUnsigned_counter (holds (k := "conflicts_observed") rfl),
    getDigestField_eq (holds (k := "state_digest") rfl), Except.ok.injEq, exists_eq_left', Readable,
    counters, List.forall_mem_cons, List.not_mem_nil, false_imp_iff, implies_true, and_true,
    and_assoc, exists_and_left, exists_eq_left, @eq_comm _ read]

end RegistryStats

namespace LoadReport

/-- The members of an encoded load report (source `Codec<LoadReport>::encode`). -/
def fields (value : LoadReport) : List (String × Value) := [
  ("claims", integerOf value.claims.toNat),
  ("content_digest", .text value.contentDigest.toHex),
  ("declarations", integerOf value.declarations.toNat),
  ("dropped_tail_bytes", integerOf value.droppedTailBytes.toNat),
  ("evidence_invalidated_on_load", integerOf value.evidenceInvalidatedOnLoad.toNat),
  ("fenced_incarnations", integerOf value.fencedIncarnations.toNat),
  ("format_version", integerOf value.formatVersion.toNat),
  ("generation", integerOf value.generation.toNat),
  ("incarnations", integerOf value.incarnations.toNat),
  ("loaded_at_wall_ns", .integer value.loadedAtWallNs),
  ("modules", integerOf value.modules.toNat),
  ("ports", integerOf value.ports.toNat),
  ("recovery_note", .text value.recoveryNote),
  ("registry_incarnation", integerOf value.registryIncarnation.toNat),
  ("rules", integerOf value.rules.toNat),
  ("samples", integerOf value.samples.toNat),
  ("sources", integerOf value.sources.toNat),
  ("tail_recovered", .boolean value.tailRecovered),
  ("thresholds", integerOf value.thresholds.toNat)]

instance : Codec LoadReport where
  encode value := codecObject value.fields
  decode encoded := do
    let _ ← asObject encoded "load report"
    let formatVersion ← getU16 encoded "format_version"
    let generation ← getUnsigned encoded "generation"
    let registryIncarnation ← getU32 encoded "registry_incarnation"
    let modules ← getUnsigned encoded "modules"
    let incarnations ← getUnsigned encoded "incarnations"
    let sources ← getUnsigned encoded "sources"
    let ports ← getUnsigned encoded "ports"
    let rules ← getUnsigned encoded "rules"
    let thresholds ← getUnsigned encoded "thresholds"
    let claims ← getUnsigned encoded "claims"
    let declarations ← getUnsigned encoded "declarations"
    let samples ← getUnsigned encoded "samples"
    let fencedIncarnations ← getUnsigned encoded "fenced_incarnations"
    let evidenceInvalidatedOnLoad ← getUnsigned encoded "evidence_invalidated_on_load"
    let tailRecovered ← getBoolean encoded "tail_recovered"
    let droppedTailBytes ← getUnsigned encoded "dropped_tail_bytes"
    let recoveryNote ← getText encoded "recovery_note"
    let contentDigest ← getDigestField encoded "content_digest"
    let loadedAtWallNs ← getInteger encoded "loaded_at_wall_ns"
    .ok { formatVersion, generation, registryIncarnation, modules, incarnations, sources, ports,
          rules, thresholds, claims, declarations, samples, fencedIncarnations,
          evidenceInvalidatedOnLoad, tailRecovered, droppedTailBytes, recoveryNote, contentDigest,
          loadedAtWallNs }

/-- The 64-bit counters of a load report. -/
def counters (report : LoadReport) : List UInt64 := [
  report.generation, report.modules, report.incarnations, report.sources, report.ports,
  report.rules, report.thresholds, report.claims, report.declarations, report.samples,
  report.fencedIncarnations, report.evidenceInvalidatedOnLoad, report.droppedTailBytes]

/-- The counters of a load report are sent as they are. -/
def Readable (report : LoadReport) : Prop := ∀ n ∈ report.counters, n.toNat < 2 ^ 63

lemma fields_ok (value : LoadReport) : keysOk (value.fields.map Prod.fst) = true := by
  simp only [fields, List.map]
  decide +kernel

/-- A load report is read back when its counters fit (source `Codec<LoadReport>::decode`). -/
lemma decode_encode {value read : LoadReport} :
    decode (encode value) = .ok read ↔ value.Readable ∧ read = value := by
  have holds {k x} (h : value.fields.lookup k = some x) : Holds (encode value) k x :=
    holds_codecObject value.fields_ok h
  simp only [decode, bind_eq_ok, asObject_eq (holds (k := "generation") rfl).object,
    getU16_eq (holds (k := "format_version") rfl),
    getUnsigned_counter (holds (k := "generation") rfl),
    getU32_eq (holds (k := "registry_incarnation") rfl),
    getUnsigned_counter (holds (k := "modules") rfl),
    getUnsigned_counter (holds (k := "incarnations") rfl),
    getUnsigned_counter (holds (k := "sources") rfl),
    getUnsigned_counter (holds (k := "ports") rfl), getUnsigned_counter (holds (k := "rules") rfl),
    getUnsigned_counter (holds (k := "thresholds") rfl),
    getUnsigned_counter (holds (k := "claims") rfl),
    getUnsigned_counter (holds (k := "declarations") rfl),
    getUnsigned_counter (holds (k := "samples") rfl),
    getUnsigned_counter (holds (k := "fenced_incarnations") rfl),
    getUnsigned_counter (holds (k := "evidence_invalidated_on_load") rfl),
    getBoolean_eq (holds (k := "tail_recovered") rfl),
    getUnsigned_counter (holds (k := "dropped_tail_bytes") rfl),
    getText_eq (holds (k := "recovery_note") rfl),
    getDigestField_eq (holds (k := "content_digest") rfl),
    getInteger_eq (holds (k := "loaded_at_wall_ns") rfl), Except.ok.injEq, exists_eq_left', Readable,
    counters, List.forall_mem_cons, List.not_mem_nil, false_imp_iff, implies_true, and_true,
    and_assoc, exists_and_left, exists_eq_left, @eq_comm _ read]

end LoadReport

end TransceiverRegistry
