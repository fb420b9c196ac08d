import TransceiverRegistry.Model.Identity
import Mathlib.Data.Nat.Basic

/-!
# Health evidence and policy

Port of `health.hpp` and `health.cpp`: samples, thresholds, the hysteresis latch and the
classification of one series. Times are stored as 64-bit numbers; sums and differences of times are
computed exactly, since signed overflow has no meaning in the source.
-/

namespace TransceiverRegistry

open Lib

/-- The lane of a module-wide series (source `kModuleLane`). -/
def kModuleLane : UInt16 := 0xFFFF

/-- A measurement handed to the registry (source `HealthSampleInput`). -/
structure HealthSampleInput where
  metric : HealthMetric
  lane : UInt16
  presence : SamplePresence
  value : Binary64
  observedAtWallNs : WallNs
  observedAtMonotonicNs : UInt64
  clockDomain : ClockDomainId
  provenance : Provenance

/-- A stored measurement (source `HealthSample`). -/
structure HealthSample where
  metric : HealthMetric
  lane : UInt16
  presence : SamplePresence
  value : Binary64
  observedAtWallNs : WallNs
  observedAtMonotonicNs : UInt64
  clockDomain : ClockDomainId
  provenance : Provenance
  source : SourceId
  sourceEpoch : SourceEpoch
  module : ModuleUid
  incarnation : IncarnationId
  generation : Generation
  sequence : Sequence
  live : Bool

/-- The published policy of a metric (source `HealthThreshold`). -/
structure HealthThreshold where
  metric : HealthMetric
  lane : UInt16
  direction : ThresholdDirection
  hasDegraded : Bool
  degradedEnter : Binary64
  degradedExit : Binary64
  hasCritical : Bool
  criticalEnter : Binary64
  criticalExit : Binary64
  escalateAfter : UInt32
  recoverAfter : UInt32
  maxAgeNs : WallNs
  disagreementTolerance : Binary64
  provenance : Provenance
  source : SourceId
  sourceEpoch : SourceEpoch
  generation : Generation
  sequence : Sequence
  live : Bool

/-- The hysteresis state of a series (source `HealthLatch`). -/
structure HealthLatch where
  state : MetricState
  consecutive : UInt32
  lastSampleWallNs : WallNs
  lastSampleSequence : Sequence
  lastTransitionGeneration : Generation
  lastTransitionWallNs : WallNs
deriving DecidableEq

/-- A latch that has seen nothing (source `HealthLatch{}`). -/
def HealthLatch.new : HealthLatch := ⟨.unknown, 0, 0, 0, 0, 0⟩

/-- A measurement is at least as severe as a bound (source `advance_latch`, `classify_value`). -/
def ThresholdDirection.reaches (direction : ThresholdDirection) (value bound : Binary64) : Bool :=
  match direction with
  | .above => bound.le value
  | .below => value.le bound

/-- The zone of a value without hysteresis (source `classify_value`). -/
def classifyValue (threshold : HealthThreshold) (value : Binary64) : MetricState :=
  if threshold.hasCritical && threshold.direction.reaches value threshold.criticalEnter then
    .critical
  else if threshold.hasDegraded && threshold.direction.reaches value threshold.degradedEnter then
    .degraded
  else .ok

/-- A zone that hysteresis applies to (source `is_hysteresis_state`, `is_threshold_zone`). -/
def isThresholdZone (state : MetricState) : Bool :=
  state = .ok ∨ state = .degraded ∨ state = .critical

/-- The severity rank of a zone (source `zone_rank`). -/
def zoneRank : MetricState → Nat
  | .critical => 2
  | .degraded => 1
  | _ => 0

/-- Move a latch by one measurement (source `advance_latch`). -/
def advanceLatch (threshold : HealthThreshold) (previous : HealthLatch) (value : Binary64)
    (sampleWallNs : WallNs) (sampleSequence : Sequence) (generation : Generation) : HealthLatch :=
  let criticalBoundary :=
    if previous.state = .critical then threshold.criticalExit else threshold.criticalEnter
  let degradedBoundary :=
    if previous.state = .degraded then threshold.degradedExit else threshold.degradedEnter
  let zone : MetricState :=
    if threshold.hasCritical && threshold.direction.reaches value criticalBoundary then .critical
    else if threshold.hasDegraded && threshold.direction.reaches value degradedBoundary then
      .degraded
    else .ok
  let entered : HealthLatch := { previous with
    state := zone, consecutive := 0, lastTransitionGeneration := generation,
    lastTransitionWallNs := sampleWallNs }
  let counted (limit : UInt32) : HealthLatch :=
    if limit ≤ previous.consecutive + 1 then entered
    else { previous with consecutive := previous.consecutive + 1 }
  let latch :=
    if isThresholdZone previous.state = false then entered
    else if zone = previous.state then { previous with consecutive := 0 }
    else if zoneRank previous.state < zoneRank zone then counted threshold.escalateAfter
    else counted threshold.recoverAfter
  { latch with lastSampleWallNs := sampleWallNs, lastSampleSequence := sampleSequence }

/-- The metric a telemetry capability declares (source `telemetry_capability_metric`). -/
def telemetryCapabilityMetric : CapabilityKey → Option HealthMetric
  | .temperatureTelemetry => some .temperatureCelsius
  | .voltageTelemetry => some .supplyVoltageVolts
  | .txPowerTelemetry => some .txPowerDbm
  | .rxPowerTelemetry => some .rxPowerDbm
  | .biasCurrentTelemetry => some .txBiasCurrentMilliamps
  | .laneSkewTelemetry => some .laneSkewPicoseconds
  | _ => none

/-- The effective threshold of a series: the last live one for its lane, else the last live
module-wide one (source `select_threshold`). -/
def selectThreshold (thresholds : List HealthThreshold) (metric : HealthMetric) (lane : UInt16) :
    Option HealthThreshold :=
  let scan := thresholds.foldl (fun (best : Option HealthThreshold × Option HealthThreshold) t =>
    if t.live = false ∨ t.metric ≠ metric then best
    else if t.lane = lane then (some t, best.2)
    else if t.lane = kModuleLane then (best.1, some t)
    else best) (none, none)
  scan.1 <|> scan.2

/-- The exit bound of a band is not more severe than its entry bound (source `validate_threshold`,
`ordered`). -/
def ThresholdDirection.ordered (direction : ThresholdDirection) (exit enter : Binary64) : Bool :=
  match direction with
  | .above => exit.le enter
  | .below => enter.le exit

/-- Accept the bounds of one band (source `validate_threshold`). -/
def validateBand (direction : ThresholdDirection) (has : Bool) (enter exit : Binary64) :
    Result Unit := do
  refuseIf (has = true ∧ (enter.isFinite = false ∨ exit.isFinite = false))
    (makeError .invalidArgument "threshold bounds must be finite")
  refuseIf (has = true ∧ direction.ordered exit enter = false) (makeError .invalidArgument
    "hysteresis exit bound must be less severe than the entry bound")

/-- Accept a consistent policy (source `validate_threshold`). -/
def validateThreshold (threshold : HealthThreshold) : Result Unit := do
  refuseIf (threshold.metric = .unknown ∨ threshold.metric = .unsupported)
    (makeError .invalidArgument "threshold must name a modelled metric")
  refuseIf (metricPlausibleRange threshold.metric = none)
    (makeError .invalidArgument "threshold metric has no plausible range")
  refuseIf (threshold.lane ≠ kModuleLane ∧ 255 < threshold.lane)
    (makeError .invalidArgument "threshold lane index is out of range")
  refuseIf (threshold.hasDegraded = false ∧ threshold.hasCritical = false)
    (makeError .invalidArgument "threshold must define at least one band")
  refuseIf (threshold.escalateAfter = 0 ∨ threshold.recoverAfter = 0)
    (makeError .invalidArgument "threshold hysteresis counts must be at least one")
  refuseIf (threshold.maxAgeNs ≤ 0)
    (makeError .invalidArgument "threshold freshness bound must be positive")
  refuseIf (threshold.disagreementTolerance.lt (.ofInt 0) = true ∨
      threshold.disagreementTolerance.isFinite = false) (makeError .invalidArgument
    "threshold disagreement tolerance must be finite and non-negative")
  validateBand threshold.direction threshold.hasDegraded threshold.degradedEnter
    threshold.degradedExit
  validateBand threshold.direction threshold.hasCritical threshold.criticalEnter
    threshold.criticalExit
  refuseIf (threshold.hasDegraded = true ∧ threshold.hasCritical = true ∧
      threshold.direction.ordered threshold.degradedEnter threshold.criticalEnter = false)
    (makeError .invalidArgument "degraded band must be less severe than the critical band")

end TransceiverRegistry
