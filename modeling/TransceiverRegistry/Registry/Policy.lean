import TransceiverRegistry.Registry.Evidence
import TransceiverRegistry.Registry.HealthReport

/-!
# Telemetry, thresholds and rules

Port of `ingest_health`, `publish_threshold`, `publish_rule` and `retire_rule` of `registry.cpp`.
-/

namespace TransceiverRegistry

open Lib

/-- Accept a measurement that the metric can take (source `Registry::ingest_health`, the checks
before the mutation). -/
def validateSample (config : RegistryConfig) (sample : HealthSampleInput) : Result Unit := do
  refuseIf (sample.metric = .unknown ∨ sample.metric = .unsupported)
    (makeError .unsupported "this runtime does not model the requested health metric")
  refuseIf (sample.lane ≠ kModuleLane ∧ config.maxLaneIndex < sample.lane)
    (makeError .invalidArgument "lane index is out of range")
  if sample.presence = .present then
    refuseIf (sample.value.isFinite = false)
      (makeError .invalidArgument "a measurement must be a finite number")
    let range ← orRefuse (metricPlausibleRange sample.metric)
      (makeError .invalidArgument "the metric has no plausible range")
    refuseIf (sample.value.lt range.1 = true ∨ range.2.lt sample.value = true) (makeError
      .invalidArgument "the measurement is outside the plausible range for this metric")
  validateProvenance sample.provenance

/-- An earlier reading of the source for the series is not older (source `Registry::ingest_health`,
the replay loop). -/
def replays (authority : AuthorityToken) (sample : HealthSampleInput) (domain : ClockDomainId)
    (monotonic : UInt64) (existing : HealthSample) : Bool :=
  existing.source = authority.source ∧ existing.metric = sample.metric ∧
  existing.lane = sample.lane ∧ existing.clockDomain = domain ∧
  existing.observedAtMonotonicNs ≠ 0 ∧ monotonic ≤ existing.observedAtMonotonicNs

/-- Change the latch of a series, creating it when there is none (source `Registry::ingest_health`,
the latch block). -/
def updateLatch (metric : HealthMetric) (lane : UInt16) (f : HealthLatch → HealthLatch) :
    List HealthLatchRecord → List HealthLatchRecord
  | [] => [⟨metric, lane, f HealthLatch.new⟩]
  | entry :: rest =>
    if entry.metric = metric ∧ entry.lane = lane then
      { entry with latch := f entry.latch } :: rest
    else entry :: updateLatch metric lane f rest

/-- The sample an ingestion stores; `now` is read before the mutation
(source `Registry::ingest_health`). -/
def storedSample (clock : Clock) (authority : AuthorityToken) (generation : Generation)
    (sequence : Sequence) (record : ModuleRecord) (sample : HealthSampleInput) (now : WallNs) :
    HealthSample :=
  let domain := if sample.clockDomain ≠ 0 then sample.clockDomain else clock.domain 0
  { metric := sample.metric
    lane := sample.lane
    presence := sample.presence
    value := if sample.presence = .present then sample.value else .ofInt 0
    observedAtWallNs := if sample.observedAtWallNs = 0 then now else sample.observedAtWallNs
    observedAtMonotonicNs :=
      if sample.observedAtMonotonicNs = 0 ∧ domain = clock.domain 1 then clock.monotonicNowNs
      else sample.observedAtMonotonicNs
    clockDomain := domain
    provenance := sample.provenance
    source := authority.source
    sourceEpoch := authority.epoch
    module := record.uid
    incarnation := record.incarnation
    generation
    sequence
    live := true }

/-- Count one more sample of a series (source `record.series_counts[...] += 1`). -/
def countSample (counts : Std.ExtTreeMap SeriesKey UInt32 compareSeries) (series : SeriesKey) :
    Std.ExtTreeMap SeriesKey UInt32 compareSeries :=
  counts.insert series (counts.getD series 0 + 1)

/-- The body of `ingest_health`; `now` is read before the mutation
(source `Registry::ingest_health`). -/
def ingestHealthBody (config : RegistryConfig) (clock : Clock) (authority : AuthorityToken)
    (module : ModuleHandle) (sample : HealthSampleInput) (now : WallNs) (s : State)
    (generation : Generation) (sequence : Sequence) : Result (State × Unit) := do
  let record ← currentModule s authority module
    "the referenced module incarnation was replaced; its telemetry is fenced"
  let stored := storedSample clock authority generation sequence record sample now
  refuseIf (stored.observedAtMonotonicNs ≠ 0 ∧ record.samples.any
      (replays authority sample stored.clockDomain stored.observedAtMonotonicNs) = true)
    (makeError .refused "the observation is not newer than the last one recorded for this series")
  let counts := countSample record.seriesCounts (seriesKey sample.metric sample.lane)
  let latches :=
    if sample.presence = .present then
      match selectThreshold (liveThresholds s) sample.metric sample.lane with
      | some threshold => updateLatch sample.metric sample.lane (fun latch =>
          advanceLatch threshold latch sample.value stored.observedAtWallNs sequence generation) record.latches
      | none => record.latches
    else record.latches
  let trim := trimSamples config ⟨record.samples ++ [stored], counts, s.droppedSamples⟩
  .ok ({ s with
    droppedSamples := trim.droppedSamples
    modules := s.modules.insert module.uid { record with
      samples := trim.samples, seriesCounts := trim.seriesCounts, latches } }, ())

/-- Record a measurement of a module (source `Registry::ingest_health`). -/
def ingestHealth (config : RegistryConfig) (clock : Clock) (authority : AuthorityToken)
    (module : ModuleHandle) (sample : HealthSampleInput) (policy : MutationPolicy) (s : State) :
    Result (State × Unit) := do
  validateSample config sample
  let now := clock.wallNowNs 0
  refuseIf (now.toInt + config.maxFutureSkewNs.toInt < sample.observedAtWallNs.toInt)
    (makeError .clockSkew "the observation timestamp is in the future")
  mutate policy.fenced module.generation
    (ingestHealthBody config clock authority module sample now) s

/-- The threshold governs the same series (source `Registry::publish_threshold`). -/
def ThresholdRecord.governs (record : ThresholdRecord) (threshold : HealthThreshold) : Bool :=
  record.threshold.metric = threshold.metric ∧ record.threshold.lane = threshold.lane

/-- Retire the thresholds of a series (source `Registry::publish_threshold`, the first loop). -/
def retireThresholds (threshold : HealthThreshold) (thresholds : List ThresholdRecord) :
    List ThresholdRecord :=
  thresholds.map fun record =>
    if record.live = true ∧ record.governs threshold = true then { record with live := false }
    else record

/-- Drop one retired threshold of a series whose history is too long
(source `Registry::publish_threshold`, the last loop, which runs once). -/
def trimThresholds (config : RegistryConfig) (threshold : HealthThreshold)
    (thresholds : List ThresholdRecord) : List ThresholdRecord :=
  if config.maxClaimHistory.toNat < thresholds.countP (·.governs threshold) then
    thresholds.eraseP fun record => !record.live && record.governs threshold
  else thresholds

/-- The record a publication adds (source `Registry::publish_threshold`). -/
def newThreshold (authority : AuthorityToken) (generation : Generation) (sequence : Sequence)
    (threshold : HealthThreshold) : ThresholdRecord where
  threshold := { threshold with
    source := authority.source, sourceEpoch := authority.epoch, generation, sequence
    live := true }
  generation := 0
  sequence := 0
  live := true

/-- The body of `publish_threshold` (source `Registry::publish_threshold`). -/
def publishThresholdBody (config : RegistryConfig) (authority : AuthorityToken)
    (threshold : HealthThreshold) (s : State) (generation : Generation) (sequence : Sequence) :
    Result (State × Unit) := do
  requireAuthority s authority
  let retired := retireThresholds threshold s.thresholds
  refuseIf (config.maxThresholds.toNat ≤ retired.countP (·.live))
    (makeError .capacityExceeded "threshold budget is exhausted")
  let added := newThreshold authority generation sequence threshold
  .ok ({ s with thresholds := trimThresholds config threshold (retired ++ [added]) }, ())

/-- Publish the policy of a series (source `Registry::publish_threshold`). -/
def publishThreshold (config : RegistryConfig) (authority : AuthorityToken)
    (threshold : HealthThreshold) (policy : MutationPolicy) (s : State) :
    Result (State × Unit) := do
  validateThreshold threshold
  validateProvenance threshold.provenance
  mutate policy.fenced 0 (publishThresholdBody config authority threshold) s

/-- The body of `publish_rule` (source `Registry::publish_rule`). -/
def publishRuleBody (config : RegistryConfig) (authority : AuthorityToken) (rule : CompatRule)
    (s : State) (generation : Generation) (sequence : Sequence) :
    Result (State × CompatRuleHandle) := do
  requireAuthority s authority
  refuseIf (config.maxRules.toNat ≤ s.rules.size)
    (makeError .capacityExceeded "compatibility rule budget is exhausted")
  let id := s.nextRuleId.toUInt32
  let record : CompatRuleRecord := {
    id, rule, source := authority.source, sourceEpoch := authority.epoch, generation, sequence
    live := true }
  .ok ({ s with nextRuleId := s.nextRuleId + 1, rules := s.rules.insert id record },
    ⟨id, generation⟩)

/-- Publish a compatibility rule (source `Registry::publish_rule`). -/
def publishRule (config : RegistryConfig) (authority : AuthorityToken) (rule : CompatRule)
    (policy : MutationPolicy) (s : State) : Result (State × CompatRuleHandle) := do
  validateRule rule
  validateProvenance rule.provenance
  mutate policy.fenced 0 (publishRuleBody config authority rule) s

/-- The body of `retire_rule` (source `Registry::retire_rule`). -/
def retireRuleBody (authority : AuthorityToken) (id : RuleId) (s : State)
    (generation : Generation) (sequence : Sequence) : Result (State × Unit) := do
  requireAuthority s authority
  let record ← orRefuse s.rules[id]? (makeError .notFound "no such compatibility rule")
  refuseIf (record.live = false)
    (makeError .conflict "the compatibility rule is already retired")
  .ok ({ s with rules := s.rules.insert id { record with live := false, generation, sequence } },
    ())

/-- Retire a compatibility rule (source `Registry::retire_rule`). -/
def retireRule (authority : AuthorityToken) (id : RuleId) (policy : MutationPolicy) (s : State) :
    Result (State × Unit) :=
  mutate policy.fenced 0 (retireRuleBody authority id) s

end TransceiverRegistry
