import TransceiverRegistry.Registry.Judgement
import TransceiverRegistry.Registry.Samples

/-!
# Health is evidence-gated

A row of a health report shows a zone only when there is evidence for it: a published threshold and
fresh measurements of live sources that agree within its tolerance. A latch can change which zone is
shown, not whether one is shown.
-/

namespace TransceiverRegistry

open Lib

/-- A stored sample of a source for a series of a module that is live: it is about the current
incarnation and was recorded under the current epoch of its source. -/
def liveSample (s : State) (record : ModuleRecord) (metric : HealthMetric) (lane : UInt16)
    (source : SourceId) (sample : HealthSample) : Bool :=
  sample.module = record.uid && sample.incarnation = record.incarnation &&
  sourceIsLive s sample.source sample.sourceEpoch && sample.source = source &&
  (sample.metric = metric && sample.lane = lane)

/-- The newest live sample of a source for a series is a measurement that is fresh at a time. -/
structure FreshEvidence (config : RegistryConfig) (now : WallNs) (s : State) (record : ModuleRecord)
    (metric : HealthMetric) (lane : UInt16) (threshold : HealthThreshold) (source : SourceId)
    (sample : HealthSample) : Prop where
  newest : IsNewest (liveSample s record metric lane source) HealthSample.wall record.samples sample
  present : sample.presence = .present
  age : now.toInt - sample.wall ≤ threshold.maxAgeNs.toInt
  skew : sample.wall - now.toInt ≤ config.maxFutureSkewNs.toInt

/-- The threshold is published, live, and governs the series: its metric, and its lane or the whole
module. -/
def InForce (s : State) (metric : HealthMetric) (lane : UInt16) (threshold : HealthThreshold) :
    Prop :=
  (∃ published ∈ s.thresholds, published.live = true ∧ published.threshold = threshold) ∧
  threshold.live = true ∧ threshold.metric = metric ∧
  (threshold.lane = lane ∨ threshold.lane = kModuleLane)

/-- A series has a selected threshold in force, fresh evidence, and no two sources whose fresh values
differ by more than the tolerance. -/
def Evidenced (config : RegistryConfig) (now : WallNs) (s : State) (record : ModuleRecord)
    (metric : HealthMetric) (lane : UInt16) : Prop :=
  ∃ threshold, selectThreshold (liveThresholds s) metric lane = some threshold ∧
    InForce s metric lane threshold ∧
    (∃ source sample, FreshEvidence config now s record metric lane threshold source sample) ∧
    ∀ source source' a b, FreshEvidence config now s record metric lane threshold source a →
      FreshEvidence config now s record metric lane threshold source' b → source ≠ source' →
      threshold.disagreementTolerance.lt (a.value.sub b.value) = false

variable {config : RegistryConfig} {now : WallNs} {s s' : State} {record : ModuleRecord}
  {metric : HealthMetric} {lane : UInt16} {threshold : HealthThreshold} {source : SourceId}
  {sample : HealthSample}

/-- The selected threshold is in force (source `select_threshold`, `live_thresholds`). -/
lemma inForce_of_selected
    (selected : selectThreshold (liveThresholds s) metric lane = some threshold) :
    InForce s metric lane threshold := by
  obtain ⟨member, live, ofMetric, ofLane⟩ := selectThreshold_spec selected
  obtain ⟨published, kept, rfl⟩ := List.mem_map.1 member
  obtain ⟨stored, inForce⟩ := List.mem_filter.1 kept
  exact ⟨⟨published, stored, inForce, rfl⟩, live, ofMetric, ofLane⟩

/-- Fresh evidence is a stored measurement of the series about the current incarnation, recorded
under the current epoch of its source. -/
lemma FreshEvidence.stored
    (h : FreshEvidence config now s record metric lane threshold source sample) :
    sample ∈ record.samples ∧ sample.metric = metric ∧ sample.lane = lane ∧
      sample.incarnation = record.incarnation ∧
      sourceIsLive s sample.source sample.sourceEpoch = true ∧ sample.source = source := by
  have holds := h.newest.holds
  simp only [liveSample, Bool.and_eq_true, decide_eq_true_eq] at holds
  obtain ⟨⟨⟨⟨_, incarnation⟩, live⟩, own⟩, ofMetric, ofLane⟩ := holds
  exact ⟨h.newest.mem, ofMetric, ofLane, incarnation, live, own⟩

/-- The samples of a series as a report sees them (source `build_health_report`, `series`). -/
def seriesOf (s : State) (record : ModuleRecord) (metric : HealthMetric) (lane : UInt16) :
    List HealthSample :=
  (record.samples.map (markSample s record)).filter fun sample =>
    sample.metric = metric ∧ sample.lane = lane

/-- The newest samples of the sources as a report sees them are the newest live ones that are stored
(source `build_health_report`, `marked`). -/
lemma newest_seriesOf (s : State) (record : ModuleRecord) (metric : HealthMetric) (lane : UInt16)
    (source : SourceId) :
    newest (HealthSample.countsFor record.uid record.incarnation source) HealthSample.wall
      (seriesOf s record metric lane) =
    (newest (liveSample s record metric lane source) HealthSample.wall record.samples).map
      (markSample s record) := by
  rw [seriesOf, newest_filter, newest_map]
  congr 2
  funext sample
  have marked : (markSample s record sample).live = true ↔
      sample.incarnation = record.incarnation ∧
        sourceIsLive s sample.source sample.sourceEpoch = true := by
    rw [markSample, Bool.and_eq_true, decide_eq_true_iff]
  rw [Bool.eq_iff_iff]
  simp only [HealthSample.countsFor, liveSample, Bool.and_eq_true, decide_eq_true_eq, marked]
  constructor
  · rintro ⟨⟨a, b⟩, ⟨⟨c, d⟩, e, f⟩, g⟩
    exact ⟨⟨⟨⟨c, e⟩, f⟩, g⟩, a, b⟩
  · rintro ⟨⟨⟨⟨c, e⟩, f⟩, g⟩, a, b⟩
    exact ⟨⟨a, b⟩, ⟨⟨c, e⟩, e, f⟩, g⟩

/-- The samples kept of a series are the newest live ones, marked (source `classify_series`, the
first loop). -/
lemma mem_kept_iff {sample' : HealthSample} :
    (source, sample') ∈ ((seriesOf s record metric lane).foldl
      (scanSample record.uid record.incarnation) ([], 0)).1 ↔
    ∃ sample, IsNewest (liveSample s record metric lane source) HealthSample.wall record.samples
      sample ∧ markSample s record sample = sample' := by
  rw [mem_foldl_scanSample, ← newest_eq_some_iff, newest_seriesOf, Option.map_eq_some_iff]
  simp only [newest_eq_some_iff]

/-- A sample is usable exactly when it is a fresh measurement (source `classify_series`, the second
loop). -/
lemma usable_iff : sample.usable threshold.maxAgeNs now config.maxFutureSkewNs = true ↔
    sample.presence = .present ∧ now.toInt - sample.wall ≤ threshold.maxAgeNs.toInt ∧
      sample.wall - now.toInt ≤ config.maxFutureSkewNs.toInt ∧ 0 ≤ threshold.maxAgeNs.toInt := by
  simp only [HealthSample.usable, Bool.and_eq_true, decide_eq_true_eq, HealthSample.wall, sampleAge,
    Int64.lt_iff_toInt_lt]
  constructor
  · rintro ⟨⟨present, skew⟩, age⟩
    split at age
    · exact ⟨present, age, by omega, by omega⟩
    · exact ⟨present, by omega, by omega, age⟩
  · rintro ⟨present, age, skew, positive⟩
    refine ⟨⟨present, by omega⟩, ?_⟩
    split
    · exact age
    · exact positive

/-- The usable samples kept of a series are its fresh evidence (source `classify_series`, the second
loop). -/
lemma freshEvidence_iff {sample' : HealthSample} (positive : 0 ≤ threshold.maxAgeNs.toInt) :
    ((source, sample') ∈ ((seriesOf s record metric lane).foldl
        (scanSample record.uid record.incarnation) ([], 0)).1 ∧
      sample'.usable threshold.maxAgeNs now config.maxFutureSkewNs = true) ↔
    ∃ sample, FreshEvidence config now s record metric lane threshold source sample ∧
      markSample s record sample = sample' := by
  rw [mem_kept_iff, usable_iff]
  constructor
  · rintro ⟨⟨sample, newest, rfl⟩, present, age, skew, _⟩
    exact ⟨sample, ⟨newest, present, age, skew⟩, rfl⟩
  · rintro ⟨sample, ⟨newest, present, age, skew⟩, rfl⟩
    exact ⟨⟨sample, newest, rfl⟩, present, age, skew, positive⟩

/-- A value is classified into a zone (source `classify_value`). -/
lemma isThresholdZone_classifyValue (threshold : HealthThreshold) (value : Binary64) :
    isThresholdZone (classifyValue threshold value) = true := by
  unfold classifyValue
  split
  · rfl
  · split <;> rfl

/-- A zone is classified only from evidence (source `classify_series`). -/
lemma evidenced_of_zone
    (finite : ∀ sample ∈ record.samples, sample.presence = .present → sample.value.isFinite = true)
    (zone : isThresholdZone (classifySeries (seriesOf s record metric lane)
      (selectThreshold (liveThresholds s) metric lane) record.uid record.incarnation now
      config.maxFutureSkewNs).state = true) :
    Evidenced config now s record metric lane := by
  obtain ⟨threshold, first, rest, selected, values, agree⟩ := classifySeries_zone zone
  rw [List.filter_map, List.map_map] at values
  let kept := ((seriesOf s record metric lane).foldl
    (scanSample record.uid record.incarnation) ([], 0)).1
  let fresh := kept.filter fun entry =>
    entry.2.usable threshold.maxAgeNs now config.maxFutureSkewNs
  have values : fresh.map (fun entry => entry.2.value) = first :: rest := values
  have some : ∃ entry, entry ∈ fresh := by
    refine List.exists_mem_of_ne_nil fresh fun none => ?_
    rw [none] at values
    cases values
  obtain ⟨⟨source, sample'⟩, member⟩ := some
  obtain ⟨inKept, usable⟩ := List.mem_filter.1 member
  have positive : 0 ≤ threshold.maxAgeNs.toInt := (usable_iff.1 usable).2.2.2
  refine ⟨threshold, selected, inForce_of_selected selected, ?_,
    fun source source' a b freshA freshB differ => ?_⟩
  · obtain ⟨sample, evidence, _⟩ := (freshEvidence_iff positive).1 ⟨inKept, usable⟩
    exact ⟨source, sample, evidence⟩
  · have inFresh {k : SourceId} {x : HealthSample}
        (evidence : FreshEvidence config now s record metric lane threshold k x) :
        (k, markSample s record x) ∈ fresh :=
      List.mem_filter.2 ((freshEvidence_iff positive).2 ⟨x, evidence, rfl⟩)
    have two : 1 < (first :: rest).length := by
      rw [← values, List.length_map]
      by_contra few
      obtain ⟨only, one⟩ : ∃ only, fresh = [only] := by
        refine List.length_eq_one_iff.1 ?_
        have := List.length_pos_of_mem (inFresh freshA)
        omega
      have memA := inFresh freshA
      have memB := inFresh freshB
      rw [one, List.mem_singleton] at memA memB
      exact differ (congrArg Prod.fst (memA.trans memB.symm))
    have allFinite : ∀ value ∈ first :: rest, value.isFinite = true := by
      intro value valueMember
      rw [← values] at valueMember
      obtain ⟨⟨k, x'⟩, entry, rfl⟩ := List.mem_map.1 valueMember
      obtain ⟨x, evidence, rfl⟩ := (freshEvidence_iff positive).1 (List.mem_filter.1 entry)
      exact finite x evidence.newest.mem evidence.present
    have inValues {k : SourceId} {x : HealthSample}
        (evidence : FreshEvidence config now s record metric lane threshold k x) :
        x.value ∈ first :: rest := by
      rw [← values]
      exact List.mem_map.2 ⟨_, inFresh evidence, rfl⟩
    rw [Bool.eq_false_iff]
    intro apart
    exact agree ⟨two, Binary64.lt_sub_of_lt_sub (allFinite first List.mem_cons_self) allFinite
      (inValues freshA) (inValues freshB) apart⟩

/-- A row shows a zone only when its series was classified into one (source `build_health_report`,
the latch). -/
lemma classifyRow_zone {row : SeriesKey}
    (zone : isThresholdZone (classifyRow config now s record row).2.state = true) :
    isThresholdZone (classifySeries (seriesOf s record (classifyRow config now s record row).2.metric
      (classifyRow config now s record row).2.lane) (selectThreshold (liveThresholds s)
      (classifyRow config now s record row).2.metric (classifyRow config now s record row).2.lane)
      record.uid record.incarnation now config.maxFutureSkewNs).state = true := by
  unfold classifyRow at zone ⊢
  simp only at zone ⊢
  split at zone
  · split at zone
    · rename_i latched
      simp only [latched]
      exact latched.1
    · rename_i notLatched
      simp only [notLatched]
      exact zone
  · exact zone

/-- A measurement that is accepted is finite (source `Registry::ingest_health`, the checks before
the mutation). -/
lemma isFinite_of_validateSample {sample : HealthSampleInput} {u : Unit}
    (valid : validateSample config sample = .ok u) (present : sample.presence = .present) :
    sample.value.isFinite = true := by
  simp only [validateSample, present, if_true, bind_eq_ok] at valid
  obtain ⟨_, _, _, _, _, finite, _⟩ := valid
  exact Bool.of_not_eq_false (refuseIf_eq_ok.1 finite)

/-- Every stored measurement is finite. -/
def FiniteSamples (s : State) : Prop :=
  ∀ (uid : ModuleUid) record, s.modules[uid]? = some record → ∀ sample ∈ record.samples,
    sample.presence = .present → sample.value.isFinite = true

section Run

variable [StdSort]

/-- A step keeps the stored measurements finite. -/
lemma FiniteSamples.step (finite : FiniteSamples s) (coherent : Coherent config s) {call : Call}
    (taken : step config s call = some s') : FiniteSamples s' := by
  intro uid record' found' sample member present
  have checked := (step_eq_some taken).1
  obtain ⟨operation, clock⟩ := call
  cases samplesStep_of_step coherent taken found' with
  | fresh _ samples _ =>
    rw [samples] at member
    cases member
  | stay found samples _ =>
    rw [samples] at member
    exact finite uid _ found sample member present
  | ingest operation _ found _ trims samples _ =>
    obtain rfl := operation
    rw [samples, trims] at member
    obtain old | new := List.mem_append.1 ((trimSamples_sublist config _).subset member)
    · exact finite uid _ found sample old present
    · obtain rfl := List.mem_singleton.1 new
      have given := isFinite_of_validateSample checked.1 present
      simp only [ingestedSample, storedSample] at present ⊢
      rwa [if_pos present]

/-- In every reachable state the stored measurements are finite. -/
lemma finiteSamples_of_run {ok : State → Call → Prop}
    (reached : Run (step config) ok State.initial s) : FiniteSamples s :=
  coherent_invariant reached (fun uid record found => by simp [State.initial] at found)
    fun _ _ _ coherent finite _ taken => finite.step coherent taken

end Run

/-- The worst state is at least as severe as every state it was folded from (source
`build_health_report`, `worst`). -/
lemma le_worseState (states : List MetricState) (worst : Option MetricState) :
    (∀ w ∈ worst, metricStateSeverity w ≤
      metricStateSeverity ((states.foldl worseState worst).getD .unknown)) ∧
    ∀ state ∈ states, metricStateSeverity state ≤
      metricStateSeverity ((states.foldl worseState worst).getD .unknown) := by
  induction states generalizing worst with
  | nil =>
    refine ⟨?_, by simp⟩
    rintro w found
    rw [Option.mem_def.1 found]
    exact le_rfl
  | cons state rest ih =>
    obtain ⟨keeps, all⟩ := ih (worseState worst state)
    have first : metricStateSeverity state ≤ metricStateSeverity
        (((state :: rest).foldl worseState worst).getD .unknown) := by
      cases worst with
      | none => exact keeps state rfl
      | some w =>
        by_cases worse : metricStateSeverity w < metricStateSeverity state
        · exact keeps state (by simp [worseState, worse])
        · exact (not_lt.1 worse).trans (keeps w (by simp [worseState, worse]))
    refine ⟨?_, fun other member => ?_⟩
    · rintro w found
      obtain rfl := Option.mem_def.1 found
      by_cases worse : metricStateSeverity w < metricStateSeverity state
      · exact worse.le.trans first
      · exact keeps w (by simp [worseState, worse])
    · obtain rfl | member := List.mem_cons.1 member
      · exact first
      · exact all other member

/-- Only an ok row has no severity (source `metric_state_severity`). -/
lemma eq_ok_of_severity {state : MetricState} (h : metricStateSeverity state ≤ 0) : state = .ok := by
  cases state <;> first | rfl | exact absurd h (by decide)

/-- A report without rows is not fresh (source `build_health_report`). -/
lemma ne_nil_of_fresh {states : List MetricState} (fresh : reportOutcome states = .fresh) :
    states ≠ [] := by
  rintro rfl
  cases fresh

/-- Every row of a health report that shows a zone is evidenced, and a healthy report has rows, all
of them ok and evidenced (source `build_health_report`, `HealthReport::healthy`). -/
theorem health_is_evidenced [StdSort] {ok : State → Call → Prop}
    (reached : Run (step config) ok State.initial s) {uid : ModuleUid}
    (found : s.modules[uid]? = some record) (now : WallNs) (domain : ClockDomainId) :
    (∀ row ∈ (buildHealthReport config now domain s record).metrics,
      isThresholdZone row.state = true → Evidenced config now s record row.metric row.lane) ∧
    ((buildHealthReport config now domain s record).healthy = true →
      (buildHealthReport config now domain s record).metrics ≠ [] ∧
      ∀ row ∈ (buildHealthReport config now domain s record).metrics,
        row.state = .ok ∧ Evidenced config now s record row.metric row.lane) := by
  have finite := finiteSamples_of_run reached uid record found
  have gated : ∀ row ∈ (buildHealthReport config now domain s record).metrics,
      isThresholdZone row.state = true → Evidenced config now s record row.metric row.lane := by
    intro row member zone
    obtain ⟨both, judged, rfl⟩ := List.mem_map.1 member
    obtain ⟨series, _, rfl⟩ := List.mem_map.1 judged
    exact evidenced_of_zone finite (classifyRow_zone zone)
  refine ⟨gated, fun healthy => ?_⟩
  unfold HealthReport.healthy at healthy
  split at healthy
  · cases healthy
  · rename_i outcome
    have fresh := ne_nil_of_fresh (not_not.1 outcome)
    have worst := of_decide_eq_true healthy
    refine ⟨fun none => fresh (by simpa [buildHealthReport] using none), fun row member => ?_⟩
    have severity := (le_worseState ((buildHealthReport config now domain s record).metrics.map
      (·.state)) none).2 row.state (List.mem_map_of_mem member)
    have all : row.state = .ok := by
      refine eq_ok_of_severity (severity.trans ?_)
      exact (congrArg metricStateSeverity worst).le
    exact ⟨all, gated row member (by rw [all]; rfl)⟩

/-- A temperature policy: degraded from 70 degrees, critical from 80, fresh for 10 nanoseconds. -/
def temperaturePolicy (escalateAfter : UInt32) : HealthThreshold where
  metric := .temperatureCelsius
  lane := kModuleLane
  direction := .above
  hasDegraded := true
  degradedEnter := .ofInt 70
  degradedExit := .ofInt 65
  hasCritical := true
  criticalEnter := .ofInt 80
  criticalExit := .ofInt 75
  escalateAfter
  recoverAfter := 3
  maxAgeNs := 10
  disagreementTolerance := .ofInt 1
  provenance := hostEvidence
  source := 0
  sourceEpoch := 0
  generation := 0
  sequence := 0
  live := true

/-- Publish the temperature policy. -/
def publishPolicy (escalateAfter : UInt32) : Call :=
  Operation.now (.publishThreshold host (temperaturePolicy escalateAfter) .autoRetry)

/-- A module with one cool reading is healthy, on evidence. -/
theorem health_is_evidenced_cool :
    ∃ s record, Run (step {}) Unguarded State.initial s ∧
      s.modules[(1 : UInt64)]? = some record ∧
      (buildHealthReport {} 5 1 s record).healthy = true ∧
      (buildHealthReport {} 5 1 s record).metrics ≠ [] ∧
      ∀ row ∈ (buildHealthReport {} 5 1 s record).metrics,
        row.state = .ok ∧ Evidenced {} 5 s record row.metric row.lane := by
  have cool : (runActions (step {}) [registerHost, registerBay bayA .ensureCurrent,
      publishPolicy 1, reading .temperatureCelsius 1 1] State.initial).any
      (fun s => s.modules[(1 : UInt64)]?.any fun record =>
        (buildHealthReport {} 5 1 s record).healthy) = true := by decide +kernel
  obtain ⟨s, reached, shows⟩ := Run.exists_ofActions cool
  obtain ⟨record, found, healthy⟩ := (Option.any_eq_true _ _).1 shows
  have evidenced := (health_is_evidenced reached found 5 1).2 healthy
  exact ⟨s, record, reached, found, healthy, evidenced⟩

end TransceiverRegistry
