import TransceiverRegistry.Registry.State
import TransceiverRegistry.Canonical.Writer

/-!
# Health reports

Port of `build_health_report` of `registry.cpp`: the series that a module is judged on, one row for
each of them, and the outcome of the whole report.
-/

namespace TransceiverRegistry

open Lib

/-- Something a report complains about (source `HealthIssue`). -/
structure HealthIssue where
  kind : HealthIssueKind
  metric : HealthMetric
  lane : UInt16
  detail : Bytes

/-- One row of a report (source `MetricHealth`). -/
structure MetricHealth where
  metric : HealthMetric
  lane : UInt16
  state : MetricState
  hasValue : Bool
  value : Binary64
  hasAge : Bool
  ageNs : Int
  sampleCount : Nat
  freshCount : Nat
  staleCount : Nat
  fencedCount : Nat
  sourceCount : Nat
  reason : Bytes

/-- The health of a module (source `HealthReport`). -/
structure HealthReport where
  uid : ModuleUid
  incarnation : IncarnationId
  generation : Generation
  outcome : HealthOutcome
  worst : MetricState
  metrics : List MetricHealth
  issues : List HealthIssue
  evaluatedAtWallNs : WallNs
  clockDomain : ClockDomainId
  digest : Digest

/-- Find the latch of a series (source `find_latch`). -/
def findLatch (latches : List HealthLatchRecord) (metric : HealthMetric) (lane : UInt16) :
    Option HealthLatchRecord :=
  latches.find? fun entry => entry.metric = metric ∧ entry.lane = lane

/-- Consider a series once (source `build_health_report`, `add_row`). -/
def addRow (rows : List SeriesKey) (row : SeriesKey) : List SeriesKey :=
  if row ∈ rows then rows else rows ++ [row]

/-- The series of a declared telemetry capability (source `build_health_report`, the third
loop). -/
def declaredSeries (record : ModuleRecord) (declaration : CapabilityDeclaration) :
    Option SeriesKey :=
  if declaration.incarnation ≠ record.incarnation ∨ declaration.live = false then none
  else do
    let metric ← telemetryCapabilityMetric declaration.key
    let declared ← declaration.value.asBoolean
    if declared then some (seriesKey metric kModuleLane) else none

/-- The series considered for a module, in order (source `build_health_report`, `rows`). -/
def reportRows [StdSort] (s : State) (record : ModuleRecord) : List SeriesKey :=
  let policy := (liveThresholds s).map fun t => seriesKey t.metric t.lane
  let evidence := (record.samples.filter (·.incarnation = record.incarnation)).map fun sample =>
    seriesKey sample.metric sample.lane
  let declared := record.declarations.filterMap (declaredSeries record)
  StdSort.sort (fun a b => (compareSeries a b).isLT)
    ((policy ++ evidence ++ declared).foldl addRow [])

/-- A sample marked live by the current incarnation and the current source epochs
(source `build_health_report`, `marked`). -/
def markSample (s : State) (record : ModuleRecord) (sample : HealthSample) : HealthSample :=
  { sample with live := decide (sample.incarnation = record.incarnation) &&
      sourceIsLive s sample.source sample.sourceEpoch }

/-- The classification of one series of a module (source `build_health_report`, the loop). -/
def classifyRow (config : RegistryConfig) (now : WallNs) (s : State) (record : ModuleRecord)
    (row : SeriesKey) : SeriesClassification × MetricHealth :=
  let metric : HealthMetric := WireEnum.ofCode row.1.toNat
  let lane := row.2
  let series := (record.samples.map (markSample s record)).filter fun sample =>
    sample.metric = metric ∧ sample.lane = lane
  let threshold := selectThreshold (liveThresholds s) metric lane
  let c := classifySeries series threshold record.uid record.incarnation now config.maxFutureSkewNs
  let health : MetricHealth := {
    metric, lane, state := c.state, hasValue := c.hasValue, value := c.value, hasAge := c.hasAge
    ageNs := c.ageNs, sampleCount := series.length, freshCount := c.fresh, staleCount := c.stale
    fencedCount := c.fenced, sourceCount := c.sources, reason := c.reason }
  -- hysteresis refines a classification that the evidence already produced
  match findLatch record.latches metric lane with
  | some latch =>
    if isThresholdZone c.state = true ∧ isThresholdZone latch.latch.state = true then
      (c, { health with
        state := latch.latch.state
        reason := text "latched classification with hysteresis" })
    else (c, health)
  | none => (c, health)

/-- The issue a row raises (source `build_health_report`, the switch). -/
def rowIssue (c : SeriesClassification) (health : MetricHealth) : Option HealthIssue :=
  let issue (kind : HealthIssueKind) : Option HealthIssue :=
    some ⟨kind, health.metric, health.lane, c.reason⟩
  match health.state with
  | .stale | .unknown => issue c.reasonKind
  | .fenced => issue .fenced
  | .conflicting => issue .sourceConflict
  | .unclassified => issue .noThreshold
  | .ok | .degraded | .critical => none

/-- The worse of the state so far and the state of the next row (source `build_health_report`,
`worst`). -/
def worseState (worst : Option MetricState) (state : MetricState) : Option MetricState :=
  match worst with
  | none => some state
  | some w => if metricStateSeverity w < metricStateSeverity state then some state else some w

/-- The outcome of a report from the states of its rows (source `build_health_report`). -/
def reportOutcome (states : List MetricState) : HealthOutcome :=
  let count (p : MetricState → Bool) := states.countP p
  if states = [] then .unknown
  else if 0 < count (· = .conflicting) then .conflicting
  else if count (· = .fenced) = states.length then .fenced
  else if count (· = .unknown) = states.length then .unknown
  else if count (· = .stale) = states.length then .stale
  else if count (fun state => isThresholdZone state || decide (state = .unclassified)) =
      states.length then .fresh
  else .partial_

/-- Write one row for the digest (source `build_health_report`, the digest loop). -/
def writeRow (w : CanonicalWriter) (row : MetricHealth) : CanonicalWriter :=
  let w := ((w.beginObject 4).field (text "lane")).integer (Int64.ofNat row.lane.toNat)
  let w := (w.field (text "metric")).integer (Int64.ofNat (code row.metric))
  let w := (w.field (text "state")).integer (Int64.ofNat (code row.state))
  let w := w.field (text "value")
  if row.hasValue then w.real row.value else w.nullValue

/-- The identity of a report (source `build_health_report`, the writer). -/
def reportDigest (report : HealthReport) : Digest :=
  let w := ((CanonicalWriter.new.beginObject 8).field (text "incarnation")).integer
    (Int64.ofNat report.incarnation.toNat)
  let w := (w.field (text "metrics")).beginArray report.metrics.length
  let w := report.metrics.foldl writeRow w
  let w := (w.field (text "outcome")).integer (Int64.ofNat (code report.outcome))
  let w := (w.field (text "uid")).integer report.uid.toInt64
  let w := (w.field (text "worst")).integer (Int64.ofNat (code report.worst))
  w.digest

/-- Judge a module by its evidence, the policy and the clock (source `build_health_report`). -/
def buildHealthReport [StdSort] (config : RegistryConfig) (now : WallNs) (domain : ClockDomainId)
    (s : State) (record : ModuleRecord) : HealthReport :=
  let rows := (reportRows s record).map (classifyRow config now s record)
  let metrics := rows.map (·.2)
  let states := metrics.map (·.state)
  let report : HealthReport := {
    uid := record.uid
    incarnation := record.incarnation
    generation := s.generation
    outcome := reportOutcome states
    worst := (states.foldl worseState none).getD .unknown
    metrics
    issues := rows.filterMap fun row => rowIssue row.1 row.2
    evaluatedAtWallNs := now
    clockDomain := domain
    digest := Digest.zero }
  { report with digest := reportDigest report }

/-- The whole module is healthy (source `HealthReport::healthy`). -/
def HealthReport.healthy (report : HealthReport) : Bool :=
  if report.outcome ≠ .fresh then false else report.worst = .ok

end TransceiverRegistry
