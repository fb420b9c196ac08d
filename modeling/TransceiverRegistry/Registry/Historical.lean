import TransceiverRegistry.Registry.HealthView

/-!
# Historical measurements

A measurement that is older than a live one of its source does not change how its series is judged, as
long as no observation is evicted for it. It still moves the latch of the series, since the latch takes
the measurements in the order in which they arrive.
-/

namespace TransceiverRegistry

open Lib

/-- What a row shows: its series and its state. -/
def MetricHealth.shown (row : MetricHealth) : HealthMetric × UInt16 × MetricState :=
  (row.metric, row.lane, row.state)

/-- A measurement is historical: at its ingestion it is older than the effective threshold allows,
and older than another stored observation of its source for the series. -/
structure Historical (s : State) (clock : Clock) (authority : AuthorityToken)
    (record : ModuleRecord) (sample : HealthSampleInput) (threshold : HealthThreshold) : Prop where
  selected : selectThreshold (liveThresholds s) sample.metric sample.lane = some threshold
  aged : threshold.maxAgeNs.toInt <
    (clock.wallNowNs 0).toInt - (ingestedSample s clock authority record sample).wall
  older : ∃ other ∈ record.samples, other.source = authority.source ∧
    other.metric = sample.metric ∧ other.lane = sample.lane ∧
    (ingestedSample s clock authority record sample).wall < other.wall

/-- A newer observation of the same source for the series is stored and live. -/
def NewerIsLive (s : State) (clock : Clock) (authority : AuthorityToken) (record : ModuleRecord)
    (sample : HealthSampleInput) : Prop :=
  ∃ other ∈ record.samples,
    liveSample s record sample.metric sample.lane authority.source other = true ∧
    (ingestedSample s clock authority record sample).wall < other.wall

/-- A measurement leaves the latch of its series in the zone that is shown, if a zone is shown. -/
def LatchHolds (config : RegistryConfig) (now : WallNs) (s : State) (record : ModuleRecord)
    (sample : HealthSampleInput) (threshold : HealthThreshold) : Prop :=
  sample.presence = .present →
    isThresholdZone (judgedSeries config now s record sample.metric sample.lane) = true →
    (latchMove threshold (latchView record.latches sample.metric sample.lane) sample.value).1 =
      shownSeries config now s record sample.metric sample.lane

/-- A measurement disturbs nothing that the report of its module shows: no bound of the samples is
exceeded, so that no observation is evicted for it; a newer observation of its source is live; and the
latch of its series holds. -/
structure Undisturbing (config : RegistryConfig) (now : WallNs) (s : State) (clock : Clock)
    (authority : AuthorityToken) (record : ModuleRecord) (sample : HealthSampleInput)
    (threshold : HealthThreshold) : Prop where
  fits : BelowCaps config record (seriesKey sample.metric sample.lane)
  newer : NewerIsLive s clock authority record sample
  latch : LatchHolds config now s record sample threshold

instance (s : State) (clock : Clock) (authority : AuthorityToken) (record : ModuleRecord)
    (sample : HealthSampleInput) : Decidable (NewerIsLive s clock authority record sample) := by
  unfold NewerIsLive
  infer_instance

instance (config : RegistryConfig) (now : WallNs) (s : State) (record : ModuleRecord)
    (sample : HealthSampleInput) (threshold : HealthThreshold) :
    Decidable (LatchHolds config now s record sample threshold) := by
  unfold LatchHolds
  infer_instance

section Ingestion

variable {config : RegistryConfig} {clock : Clock} {s s' : State} {now : WallNs}
  {authority : AuthorityToken} {module : ModuleHandle} {sample : HealthSampleInput}
  {policy : MutationPolicy} {record record' : ModuleRecord} {threshold : HealthThreshold}
  {metric : HealthMetric} {lane : UInt16}

/-- What an ingestion that evicts nothing does, as far as health depends on it. -/
structure IngestedView (s s' : State) (clock : Clock) (authority : AuthorityToken)
    (module : ModuleHandle) (sample : HealthSampleInput) (record record' : ModuleRecord) :
    Prop where
  live : sourceIsLive s authority.source authority.epoch = true
  current : record.incarnation = module.incarnation
  own : record.uid = module.uid
  sources : s'.view.sources = s.view.sources
  thresholds : s'.view.thresholds = s.view.thresholds
  declarations : record'.declarations = record.declarations
  view : record'.view = { record.view with
    samples := record.view.samples ++ [observation clock authority module sample]
    latches := record.view.advance s.view.thresholds sample }

/-- What an ingestion that evicts nothing does (source `Registry::ingest_health`). -/
lemma ingestedView_of_step [StdSort] (coherent : Coherent config s)
    (fits : BelowCaps config record (seriesKey sample.metric sample.lane))
    (found : s.modules[module.uid]? = some record)
    (taken : step config s ⟨.ingestHealth authority module sample policy, clock⟩ = some s')
    (found' : s'.modules[module.uid]? = some record') :
    IngestedView s s' clock authority module sample record record' := by
  have below : SamplesFit config s ⟨.ingestHealth authority module sample policy, clock⟩ := by
    intro other known
    obtain rfl := Option.some.inj (found.symm.trans known)
    exact fits
  have moved := view_step coherent below taken
  have view : moduleViews s'.modules module.uid =
      (s.view.ingestHealth clock authority module sample).modules module.uid :=
    congrFun (congrArg HealthView.modules moved) module.uid
  simp only [HealthView.ingestHealth, Function.update_self, State.view, moduleViews, found, found',
    Option.map_some] at view
  cases step_moduleStep coherent taken with
  | stay quiet => cases quiet
  | move quiet => cases quiet
  | ingestHealth live known current _ _ _ _ written =>
    obtain rfl := Option.some.inj (found.symm.trans known)
    rw [written, Std.ExtTreeMap.getElem?_insert_self] at found'
    refine ⟨live, current, coherent.modules.uid module.uid _ found, ?_, ?_, ?_,
      Option.some.inj view⟩
    · exact (congrArg HealthView.sources moved).trans rfl
    · exact (congrArg HealthView.thresholds moved).trans rfl
    · rw [← Option.some.inj found']

/-- The observation is never fenced (source `Registry::ingest_health`, the authority and the
incarnation it checks). -/
lemma IngestedView.fenced (ingested : IngestedView s s' clock authority module sample record record')
    (metric : HealthMetric) (lane : UInt16) :
    s'.view.fenced record'.view metric lane = s.view.fenced record.view metric lane := by
  have isLive : s'.view.isLive = s.view.isLive := by
    funext source epoch
    rw [HealthView.isLive, ingested.sources, HealthView.isLive]
  have live : s.view.isLive authority.source authority.epoch = true := by
    rw [isLive_view]
    exact ingested.live
  have current : module.incarnation = record.view.incarnation := ingested.current.symm
  simp [HealthView.fenced, isLive, ingested.view, observation, live, current]

/-- An observation that is older than a live one of its source is never the newest (source
`classify_series`, the first loop). -/
lemma IngestedView.newestLive
    (ingested : IngestedView s s' clock authority module sample record record')
    (newer : NewerIsLive s clock authority record sample) (metric : HealthMetric) (lane : UInt16)
    (source : SourceId) : s'.view.newestLive record'.view metric lane source =
      s.view.newestLive record.view metric lane source := by
  have isLive : s'.view.isLive = s.view.isLive := by
    funext source epoch
    rw [HealthView.isLive, ingested.sources, HealthView.isLive]
  have same : s'.view.liveSample record'.view metric lane source =
      s.view.liveSample record.view metric lane source := by
    funext x
    simp only [HealthView.liveSample, isLive, ingested.view]
  have samples : record'.view.samples =
      record.view.samples ++ [observation clock authority module sample] :=
    congrArg ModuleView.samples ingested.view
  rw [HealthView.newestLive, same, samples]
  refine newest_concat_of_older fun ours => ?_
  obtain ⟨other, stored, live, less⟩ := newer
  simp only [HealthView.liveSample, Bool.and_eq_true, decide_eq_true_eq] at ours
  obtain ⟨⟨_, ofSource⟩, ofMetric, ofLane⟩ := ours
  have ofSource : authority.source = source := ofSource
  have ofMetric : sample.metric = metric := ofMetric
  have ofLane : sample.lane = lane := ofLane
  subst ofSource ofMetric ofLane
  refine ⟨other.unstamped, List.mem_map_of_mem stored, ?_, less⟩
  simp only [HealthView.liveSample, isLive_view]
  exact live

/-- The judged states stay (source `classify_series`). -/
lemma IngestedView.judged (ingested : IngestedView s s' clock authority module sample record record')
    (newer : NewerIsLive s clock authority record sample) (metric : HealthMetric) (lane : UInt16) :
    judgedSeries config now s' record' metric lane =
      judgedSeries config now s record metric lane :=
  judgedSeries_view ingested.thresholds (ingested.newestLive newer metric lane)
    (.inr (ingested.fenced metric lane))

/-- The rows stay (source `build_health_report`, `rows`). -/
lemma IngestedView.rows [StdSort]
    (ingested : IngestedView s s' clock authority module sample record record')
    (newer : NewerIsLive s clock authority record sample) :
    reportRows s' record' = reportRows s record := by
  have policy (s : State) : (liveThresholds s).map (fun t => seriesKey t.metric t.lane) =
      s.view.thresholds.map fun t => seriesKey t.metric t.lane := by
    rw [State.view, List.map_map]
    rfl
  have evidence (record : ModuleRecord) :
      (record.samples.filter (·.incarnation = record.incarnation)).map
        (fun sample => seriesKey sample.metric sample.lane) =
      (record.view.samples.filter (·.incarnation = record.view.incarnation)).map
        fun sample => seriesKey sample.metric sample.lane := by
    rw [ModuleRecord.view, List.filter_map, List.map_map]
    rfl
  have incarnation : record'.incarnation = record.incarnation :=
    congrArg ModuleView.incarnation ingested.view
  have declared : declaredSeries record' = declaredSeries record := by
    funext declaration
    rw [declaredSeries, declaredSeries, incarnation]
  have known : seriesKey sample.metric sample.lane ∈
      (record.view.samples.filter (·.incarnation = record.view.incarnation)).map
        fun sample => seriesKey sample.metric sample.lane := by
    obtain ⟨other, stored, live, _⟩ := newer
    simp only [liveSample, Bool.and_eq_true, decide_eq_true_eq] at live
    obtain ⟨⟨⟨⟨_, current⟩, _⟩, _⟩, ofMetric, ofLane⟩ := live
    rw [← ofMetric, ← ofLane, ← evidence]
    exact List.mem_map.2 ⟨other, List.mem_filter.2 ⟨stored, decide_eq_true current⟩, rfl⟩
  have added : (record'.view.samples.filter (·.incarnation = record'.view.incarnation)).map
      (fun sample => seriesKey sample.metric sample.lane) =
      (record.view.samples.filter (·.incarnation = record.view.incarnation)).map
        (fun sample => seriesKey sample.metric sample.lane) ++
          [seriesKey sample.metric sample.lane] := by
    rw [ingested.view, List.filter_append, List.map_append]
    have current : module.incarnation = record.view.incarnation := ingested.current.symm
    simp [observation, current]
  rw [reportRows, reportRows, policy, policy, evidence, evidence, added, ingested.thresholds,
    ingested.declarations, declared]
  simp only [List.foldl_append, List.foldl_cons, List.foldl_nil]
  congr 2
  exact if_pos (mem_foldl_addRow.2 (.inr known))

/-- A measurement moves the latch of its own series (source `Registry::ingest_health`, the latch
block). -/
lemma IngestedView.latch
    (ingested : IngestedView s s' clock authority module sample record record')
    (selected : selectThreshold (liveThresholds s) sample.metric sample.lane = some threshold)
    (metric : HealthMetric) (lane : UInt16) : record'.view.latches metric lane =
      if sample.presence = .present ∧ sample.metric = metric ∧ sample.lane = lane then
        latchMove threshold (record.view.latches metric lane) sample.value
      else record.view.latches metric lane := by
  have effective : selectThreshold s.view.thresholds sample.metric sample.lane =
      some threshold.unstamped := by
    rw [State.view, selectThreshold_unstamped, selected, Option.map_some]
  rw [ingested.view]
  simp only [ModuleView.advance, effective]
  by_cases present : sample.presence = .present
  · simp only [present, if_true, true_and]
    rfl
  · simp only [present, if_false, false_and]

/-- The state shown for a series stays exactly when the latch holds, for the series of the
measurement (source `build_health_report`, the latch). -/
lemma IngestedView.shown_iff
    (ingested : IngestedView s s' clock authority module sample record record')
    (newer : NewerIsLive s clock authority record sample)
    (selected : selectThreshold (liveThresholds s) sample.metric sample.lane = some threshold)
    (metric : HealthMetric) (lane : UInt16) :
    shownSeries config now s' record' metric lane = shownSeries config now s record metric lane ↔
      (sample.metric = metric → sample.lane = lane →
        LatchHolds config now s record sample threshold) := by
  have judged : judgedSeries config now s' record' metric lane =
      judgedSeries config now s record metric lane := ingested.judged newer metric lane
  have latch := ingested.latch selected metric lane
  by_cases moves : sample.presence = .present ∧ sample.metric = metric ∧ sample.lane = lane
  · obtain ⟨present, rfl, rfl⟩ := moves
    rw [if_pos ⟨present, rfl, rfl⟩] at latch
    rw [shownSeries_view s', judged, latch, LatchHolds]
    by_cases zone : isThresholdZone (judgedSeries config now s record sample.metric sample.lane) =
        true
    · rw [if_pos ⟨zone, latchMove_zone _ _ _⟩]
      exact ⟨fun same _ _ _ _ => same, fun holds => holds rfl rfl present zone⟩
    · rw [if_neg fun both => zone both.1, shownSeries_view s, if_neg fun both => zone both.1]
      exact ⟨fun _ _ _ _ shows => absurd shows zone, fun _ => rfl⟩
  · rw [if_neg moves] at latch
    rw [shownSeries_view s', judged, latch, ← shownSeries_view s]
    refine ⟨fun _ ofMetric ofLane present => ?_, fun _ => rfl⟩
    exact absurd ⟨present, ofMetric, ofLane⟩ moves

/-- The rows of a report show the states of their series (source `build_health_report`). -/
lemma metrics_shown [StdSort] (config : RegistryConfig) (now : WallNs) (domain : ClockDomainId)
    (s : State) (record : ModuleRecord) :
    (buildHealthReport config now domain s record).metrics.map MetricHealth.shown =
      (reportRows s record).map fun row => (WireEnum.ofCode row.1.toNat, row.2,
        shownSeries config now s record (WireEnum.ofCode row.1.toNat) row.2) := by
  rw [buildHealthReport, List.map_map, List.map_map]
  refine List.map_congr_left fun row _ => ?_
  obtain ⟨metric, lane, state⟩ := classifyRow_state config now s record row
  simp only [Function.comp_apply, MetricHealth.shown, metric, lane, state]

/-- When nothing is evicted and a newer observation of the source is live, the rows stay exactly when
the latch of the series holds (source `Registry::ingest_health`, `build_health_report`). -/
lemma IngestedView.report_iff [StdSort]
    (ingested : IngestedView s s' clock authority module sample record record')
    (newer : NewerIsLive s clock authority record sample)
    (selected : selectThreshold (liveThresholds s) sample.metric sample.lane = some threshold)
    (domain : ClockDomainId) :
    (buildHealthReport config now domain s' record').metrics.map MetricHealth.shown =
        (buildHealthReport config now domain s record).metrics.map MetricHealth.shown ↔
      LatchHolds config now s record sample threshold := by
  have shown (metric : HealthMetric) (lane : UInt16) : shownSeries config now s' record' metric lane =
      shownSeries config now s record metric lane ↔ (sample.metric = metric → sample.lane = lane →
        LatchHolds config now s record sample threshold) :=
    ingested.shown_iff newer selected metric lane
  have row : seriesKey sample.metric sample.lane ∈ reportRows s record := by
    obtain ⟨other, stored, live, _⟩ := newer
    simp only [liveSample, Bool.and_eq_true, decide_eq_true_eq] at live
    obtain ⟨⟨⟨⟨_, current⟩, _⟩, _⟩, ofMetric, ofLane⟩ := live
    refine mem_reportRows.2 (.inr (.inl (List.mem_map.2 ⟨other, ?_, ?_⟩)))
    · exact List.mem_filter.2 ⟨stored, decide_eq_true current⟩
    · rw [ofMetric, ofLane]
  rw [metrics_shown, metrics_shown, ingested.rows newer, List.map_inj_left]
  constructor
  · intro stays
    have same := stays _ row
    rw [ofCode_seriesKey, Prod.mk.injEq, Prod.mk.injEq] at same
    exact (shown sample.metric sample.lane).1 same.2.2 rfl rfl
  · intro holds row _
    rw [(shown _ _).2 fun _ _ => holds]

/-- A historical measurement that disturbs nothing leaves every row as it was. Where no bound of the
samples is exceeded and a newer observation of the source is live, only such a one does (source
`Registry::ingest_health`, `build_health_report`). -/
theorem historical_leaves_rows [StdSort] {ok : State → Call → Prop}
    (reached : Run (step config) ok State.initial s)
    (found : s.modules[module.uid]? = some record)
    (historical : Historical s clock authority record sample threshold)
    (taken : step config s ⟨.ingestHealth authority module sample policy, clock⟩ = some s')
    (found' : s'.modules[module.uid]? = some record') (domain : ClockDomainId) :
    (Undisturbing config now s clock authority record sample threshold →
      (buildHealthReport config now domain s' record').metrics.map MetricHealth.shown =
        (buildHealthReport config now domain s record).metrics.map MetricHealth.shown) ∧
    (BelowCaps config record (seriesKey sample.metric sample.lane) →
      NewerIsLive s clock authority record sample →
      (buildHealthReport config now domain s' record').metrics.map MetricHealth.shown =
        (buildHealthReport config now domain s record).metrics.map MetricHealth.shown →
      Undisturbing config now s clock authority record sample threshold) := by
  have coherent := Coherent.run reached
  constructor
  · rintro ⟨fits, newer, latch⟩
    have ingested := ingestedView_of_step coherent fits found taken found'
    exact (ingested.report_iff newer historical.selected domain).2 latch
  · intro fits newer stays
    have ingested := ingestedView_of_step coherent fits found taken found'
    exact ⟨fits, newer, (ingested.report_iff newer historical.selected domain).1 stays⟩

end Ingestion

/-- A temperature measured at a wall time and handed over at another one, without a monotonic
time. -/
def celsius (value : Int) (observed : WallNs) : HealthSampleInput :=
  ⟨.temperatureCelsius, kModuleLane, .present, .ofInt value, observed, 0, 2, hostEvidence⟩

/-- Hand over a temperature of the module `A` at the time 100. -/
def measured (authority : AuthorityToken) (value : Int) (observed : WallNs) : Call :=
  ⟨.ingestHealth authority ⟨1, 1, 0, bayA⟩ (celsius value observed) .autoRetry, clockAt 100⟩

/-- The run before a historical measurement: a policy and one fresh, cool reading. -/
def oneFresh : List Call :=
  [registerHost, registerBay bayA .ensureCurrent, publishPolicy 1, measured host 20 100]

/-- A measurement of the time 50 that arrives at the time 100 is historical in the run, and a newer
one is live. -/
def historicalIn (s : State) (record : ModuleRecord) (value : Int) : Bool :=
  (selectThreshold (liveThresholds s) .temperatureCelsius kModuleLane).any (fun t =>
    decide (t.maxAgeNs.toInt < 50)) &&
  decide (NewerIsLive s (clockAt 100) host record (celsius value 50)) &&
  decide (BelowCaps {} record temperature)

/-- What the check of a historical measurement establishes. -/
lemma historical_of_check {s : State} {record : ModuleRecord} {value : Int}
    (check : historicalIn s record value = true) :
    (∃ t, selectThreshold (liveThresholds s) .temperatureCelsius kModuleLane = some t ∧
      Historical s (clockAt 100) host record (celsius value 50) t) ∧
    NewerIsLive s (clockAt 100) host record (celsius value 50) ∧ BelowCaps {} record temperature := by
  simp only [historicalIn, Bool.and_eq_true, Option.any_eq_true, decide_eq_true_eq] at check
  obtain ⟨⟨⟨t, selected, short⟩, newer⟩, fits⟩ := check
  refine ⟨⟨t, selected, selected, short, ?_⟩, newer, fits⟩
  obtain ⟨other, stored, live, less⟩ := newer
  simp only [liveSample, Bool.and_eq_true, decide_eq_true_eq] at live
  exact ⟨other, stored, live.1.2, live.2.1, live.2.2, less⟩

/-- A historical measurement flips a row from ok to critical (source `Registry::ingest_health`, the
latch block). -/
theorem historical_flips_row :
    ∃ s s' record record' threshold, Run (step {}) Unguarded State.initial s ∧
      s.modules[(1 : UInt64)]? = some record ∧
      Historical s (clockAt 100) host record (celsius 90 50) threshold ∧
      NewerIsLive s (clockAt 100) host record (celsius 90 50) ∧
      step {} s (measured host 90 50) = some s' ∧ s'.modules[(1 : UInt64)]? = some record' ∧
      (buildHealthReport {} 100 1 s record).metrics.map MetricHealth.shown =
        [(.temperatureCelsius, kModuleLane, .ok)] ∧
      (buildHealthReport {} 100 1 s' record').metrics.map MetricHealth.shown =
        [(.temperatureCelsius, kModuleLane, .critical)] := by
  have flips : (runActions (step {}) oneFresh State.initial).any (fun s =>
      s.modules[(1 : UInt64)]?.any fun record => historicalIn s record 90 &&
        decide ((buildHealthReport {} 100 1 s record).metrics.map MetricHealth.shown =
          [(.temperatureCelsius, kModuleLane, .ok)]) &&
        (step {} s (measured host 90 50)).any fun s' => s'.modules[(1 : UInt64)]?.any fun record' =>
          decide ((buildHealthReport {} 100 1 s' record').metrics.map MetricHealth.shown =
            [(.temperatureCelsius, kModuleLane, .critical)])) = true := by decide +kernel
  obtain ⟨s, reached, shows⟩ := Run.exists_ofActions flips
  simp only [Option.any_eq_true, Bool.and_eq_true, decide_eq_true_eq] at shows
  obtain ⟨record, found, ⟨check, before⟩, s', taken, record', found', after⟩ := shows
  obtain ⟨⟨t, _, historical⟩, newer, _⟩ := historical_of_check check
  exact ⟨s, s', record, record', t, reached, found, historical, newer, taken, found', before, after⟩

/-- A cool historical measurement leaves the row as it was. -/
theorem historical_leaves_rows_cool :
    ∃ s s' record record', Run (step {}) Unguarded State.initial s ∧
      s.modules[(1 : UInt64)]? = some record ∧ step {} s (measured host 21 50) = some s' ∧
      s'.modules[(1 : UInt64)]? = some record' ∧
      (buildHealthReport {} 100 1 s' record').metrics.map MetricHealth.shown =
        (buildHealthReport {} 100 1 s record).metrics.map MetricHealth.shown := by
  have cool : (runActions (step {}) oneFresh State.initial).any (fun s =>
      s.modules[(1 : UInt64)]?.any fun record => historicalIn s record 21 &&
        (selectThreshold (liveThresholds s) .temperatureCelsius kModuleLane).any (fun t =>
          decide (LatchHolds {} 100 s record (celsius 21 50) t)) &&
        (step {} s (measured host 21 50)).any fun s' => s'.modules[(1 : UInt64)]?.isSome) = true := by
    decide +kernel
  obtain ⟨s, reached, shows⟩ := Run.exists_ofActions cool
  simp only [Option.any_eq_true, Bool.and_eq_true, decide_eq_true_eq, Option.isSome_iff_exists]
    at shows
  obtain ⟨record, found, ⟨check, t, selected, holds⟩, s', taken, record', found'⟩ := shows
  obtain ⟨⟨t', selected', historical⟩, newer, fits⟩ := historical_of_check check
  obtain rfl := Option.some.inj (selected.symm.trans selected')
  exact ⟨s, s', record, record', reached, found, taken, found',
    (historical_leaves_rows reached found historical taken found' 1).1 ⟨fits, newer, holds⟩⟩

end TransceiverRegistry
