import TransceiverRegistry.Registry.Shown
import Mathlib.Logic.Function.Basic

/-!
# What health depends on

An abstract registry that keeps only what the health of a module depends on: the epochs of the
sources, the thresholds in force, and for every module its samples and the zones and counts of its
latches, without the numbers of the mutations that wrote them. As long as no sample is evicted, the
registry moves through these views as a function of the calls.
-/

namespace TransceiverRegistry

open Lib

/-- What the health of a module depends on, of its own record. -/
@[ext] structure ModuleView where
  uid : ModuleUid
  incarnation : IncarnationId
  samples : List HealthSample
  latches : HealthMetric → UInt16 → MetricState × UInt32

/-- What the health of the modules depends on. -/
@[ext] structure HealthView where
  /-- The epoch and the instance id of every source. -/
  sources : SourceId → Option (SourceEpoch × Bytes)
  sourceIds : Bytes → Option SourceId
  nextSource : UInt64
  thresholds : List HealthThreshold
  modules : ModuleUid → Option ModuleView
  uids : Bytes → Option ModuleUid
  nextModule : UInt64

/-- The zone and the count of the latch of a series. -/
def latchView (latches : List HealthLatchRecord) (metric : HealthMetric) (lane : UInt16) :
    MetricState × UInt32 :=
  ((latchOf latches metric lane).state, (latchOf latches metric lane).consecutive)

/-- The view of a module. -/
def ModuleRecord.view (record : ModuleRecord) : ModuleView where
  uid := record.uid
  incarnation := record.incarnation
  samples := record.samples.map HealthSample.unstamped
  latches := latchView record.latches

/-- The epochs and the instance ids of the sources. -/
def sourceViews (sources : Std.ExtTreeMap UInt32 SourceRecord compare) (id : SourceId) :
    Option (SourceEpoch × Bytes) :=
  sources[id]?.map fun record => (record.epoch, record.descriptor.instanceId)

/-- The views of the modules. -/
def moduleViews (modules : ModuleTable) (uid : ModuleUid) : Option ModuleView :=
  modules[uid]?.map ModuleRecord.view

/-- The view of a state. -/
def State.view (s : State) : HealthView where
  sources := sourceViews s.sources
  sourceIds name := s.sourceIdByName[name]?
  nextSource := s.nextSourceId
  thresholds := (liveThresholds s).map HealthThreshold.unstamped
  modules := moduleViews s.modules
  uids key := s.moduleUidByKey[key]?
  nextModule := s.nextModuleUid

/-- Register a source, under the next epoch unless its instance is the same. -/
def HealthView.registerSource (v : HealthView) (descriptor : SourceDescriptor) : HealthView :=
  match v.sourceIds descriptor.name with
  | some id => { v with sources := Function.update v.sources id ((v.sources id).map fun old =>
      (if descriptor.instanceId ≠ [] ∧ descriptor.instanceId = old.2 then old.1 else old.1 + 1,
        descriptor.instanceId)) }
  | none =>
    let id := v.nextSource.toUInt32
    { v with
      nextSource := v.nextSource + 1
      sources := Function.update v.sources id (some (1, descriptor.instanceId))
      sourceIds := Function.update v.sourceIds descriptor.name (some id) }

/-- Register a module, or the next one under its key, which starts without latches. -/
def HealthView.registerModule (v : HealthView) (key : ModuleKey) (intent : RegisterIntent) :
    HealthView :=
  match v.uids key.str with
  | some uid =>
    match intent with
    | .ensureCurrent => v
    | .newIncarnation => { v with modules := Function.update v.modules uid ((v.modules uid).map
        fun m => { m with incarnation := m.incarnation + 1, latches := fun _ _ => (.unknown, 0) }) }
  | none =>
    { v with
      nextModule := v.nextModule + 1
      modules := Function.update v.modules v.nextModule
        (some ⟨v.nextModule, 1, [], fun _ _ => (.unknown, 0)⟩)
      uids := Function.update v.uids key.str (some v.nextModule) }

/-- The latches of a module after a measurement. -/
def ModuleView.advance (m : ModuleView) (thresholds : List HealthThreshold)
    (sample : HealthSampleInput) : HealthMetric → UInt16 → MetricState × UInt32 :=
  if sample.presence = .present then
    match selectThreshold thresholds sample.metric sample.lane with
    | some threshold => fun metric lane =>
      if sample.metric = metric ∧ sample.lane = lane then
        latchMove threshold (m.latches metric lane) sample.value
      else m.latches metric lane
    | none => m.latches
  else m.latches

/-- The sample a call records, without numbers. -/
def observation (clock : Clock) (authority : AuthorityToken) (module : ModuleHandle)
    (sample : HealthSampleInput) : HealthSample where
  metric := sample.metric
  lane := sample.lane
  presence := sample.presence
  value := if sample.presence = .present then sample.value else .ofInt 0
  observedAtWallNs :=
    if sample.observedAtWallNs = 0 then clock.wallNowNs 0 else sample.observedAtWallNs
  observedAtMonotonicNs :=
    if sample.observedAtMonotonicNs = 0 ∧
        (if sample.clockDomain ≠ 0 then sample.clockDomain else clock.domain 0) = clock.domain 1 then
      clock.monotonicNowNs
    else sample.observedAtMonotonicNs
  clockDomain := if sample.clockDomain ≠ 0 then sample.clockDomain else clock.domain 0
  provenance := sample.provenance
  source := authority.source
  sourceEpoch := authority.epoch
  module := module.uid
  incarnation := module.incarnation
  generation := 0
  sequence := 0
  live := true

/-- Record a measurement of a module. -/
def HealthView.ingestHealth (v : HealthView) (clock : Clock) (authority : AuthorityToken)
    (module : ModuleHandle) (sample : HealthSampleInput) : HealthView :=
  { v with modules := Function.update v.modules module.uid ((v.modules module.uid).map fun m =>
      { m with
        samples := m.samples ++ [observation clock authority module sample]
        latches := m.advance v.thresholds sample }) }

/-- Publish the threshold of a series in place of the one in force. -/
def HealthView.publishThreshold (v : HealthView) (authority : AuthorityToken)
    (threshold : HealthThreshold) : HealthView :=
  { v with thresholds := v.thresholds.filter (fun t =>
      ¬ (t.metric = threshold.metric ∧ t.lane = threshold.lane)) ++
        [(newThreshold authority 0 0 threshold).threshold] }

/-- What a call does to a view. -/
def HealthView.apply (v : HealthView) (call : Call) : HealthView :=
  match call.operation with
  | .registerSource descriptor _ => v.registerSource descriptor
  | .registerModule registration _ => v.registerModule registration.key registration.intent
  | .ingestHealth authority module sample _ =>
    v.ingestHealth call.clock authority module sample
  | .publishThreshold authority threshold _ => v.publishThreshold authority threshold
  | _ => v

/-- A module has room for one more sample of a series: neither the bound of the module nor the bound
of a series is exceeded by it. -/
def BelowCaps (config : RegistryConfig) (record : ModuleRecord) (series : SeriesKey) : Prop :=
  record.samples.length < config.maxSamplesPerModule.toNat ∧
  ∀ entry ∈ (countSample record.seriesCounts series).toList, entry.2 ≤ config.maxSamplesPerSeries

instance (config : RegistryConfig) (record : ModuleRecord) (series : SeriesKey) :
    Decidable (BelowCaps config record series) :=
  have : Decidable (∀ entry ∈ (countSample record.seriesCounts series).toList,
      entry.2 ≤ config.maxSamplesPerSeries) := List.decidableBAll _ _
  inferInstanceAs (Decidable (record.samples.length < config.maxSamplesPerModule.toNat ∧ _))

/-- An ingestion does not exceed the bounds of the samples. -/
def SamplesFit (config : RegistryConfig) (s : State) (call : Call) : Prop :=
  match call.operation with
  | .ingestHealth _ module sample _ => ∀ record ∈ s.modules[module.uid]?,
      BelowCaps config record (seriesKey sample.metric sample.lane)
  | _ => True

instance (config : RegistryConfig) (s : State) (call : Call) :
    Decidable (SamplesFit config s call) :=
  inferInstanceAs (Decidable (call.operation.onIngestion fun _ _ _ _ => ∀ record ∈ _, _))

/-- Within its bound a series is not trimmed (source `trim_samples`, the loop over one entry). -/
lemma trimSeries_of_le {limit : UInt32} {series : SeriesKey} {count : Nat} {trim : SampleTrim}
    (fits : count ≤ limit.toNat) : trimSeries limit series count trim = trim := by
  cases count with
  | zero => rfl
  | succ count =>
    unfold trimSeries
    rw [if_neg]
    rintro ⟨exceeds, _⟩
    omega

/-- Within the bounds no sample is evicted (source `trim_samples`). -/
lemma trimSamples_of_belowCaps {config : RegistryConfig} {record : ModuleRecord}
    {series : SeriesKey} {stored : HealthSample} {dropped : UInt64}
    (fits : BelowCaps config record series) :
    (trimSamples config ⟨record.samples ++ [stored], countSample record.seriesCounts series,
      dropped⟩).samples = record.samples ++ [stored] := by
  have bySeries (entries : List (SeriesKey × UInt32)) (trim : SampleTrim)
      (small : ∀ entry ∈ entries, entry.2 ≤ config.maxSamplesPerSeries) :
      entries.foldl (fun acc entry =>
        trimSeries config.maxSamplesPerSeries entry.1 entry.2.toNat acc) trim = trim := by
    induction entries with
    | nil => rfl
    | cons entry rest ih =>
      rw [List.foldl_cons, trimSeries_of_le (UInt32.le_iff_toNat_le.1 (small entry (by simp)))]
      exact ih fun other member => small other (by simp [member])
  unfold trimSamples
  simp only
  rw [bySeries _ _ fits.2]
  have room : (record.samples ++ [stored]).length ≤ config.maxSamplesPerModule.toNat := by
    rw [List.length_append]
    exact fits.1
  rw [Nat.sub_eq_zero_of_le room, List.drop_zero]

variable {config : RegistryConfig} {clock : Clock} {s s' : State} {generation : Generation}
  {sequence : Sequence} {authority : AuthorityToken} {module : ModuleHandle}

/-- Two records that hold the same evidence have the same view. -/
lemma SameEvidence.view {record record' : ModuleRecord} (same : SameEvidence record record') :
    record'.view = record.view := by
  simp only [ModuleRecord.view, same.uid, same.incarnation, same.samples, same.latches]

/-- Writing a source writes its view. -/
lemma sourceViews_insert (sources : Std.ExtTreeMap UInt32 SourceRecord compare) (id : SourceId)
    (record : SourceRecord) : sourceViews (sources.insert id record) =
      Function.update (sourceViews sources) id (some (record.epoch, record.descriptor.instanceId)) :=
  map_getElem?_insert

/-- Writing a record writes its view. -/
lemma moduleViews_insert (modules : ModuleTable) (uid : ModuleUid) (record : ModuleRecord) :
    moduleViews (modules.insert uid record) =
      Function.update (moduleViews modules) uid (some record.view) := map_getElem?_insert

/-- Writing a record with the view of the old one changes no view. -/
lemma moduleViews_replace {modules : ModuleTable} {uid : ModuleUid} {record record' : ModuleRecord}
    (found : modules[uid]? = some record) (same : record'.view = record.view) :
    moduleViews (modules.insert uid record') = moduleViews modules := by
  rw [moduleViews_insert, same]
  refine Function.update_eq_self_iff.2 ?_
  simp only [moduleViews, found, Option.map_some]

/-- Registering a source in the view (source `Registry::register_source`). -/
lemma view_registerSource (coherent : Coherent config s) {descriptor : SourceDescriptor}
    {handle : SourceHandle}
    (run : registerSourceBody config clock descriptor s generation sequence = .ok (s', handle)) :
    s'.view = s.view.registerSource descriptor := by
  obtain ⟨id, record, epoch, named, found, rfl, rfl⟩ | ⟨unnamed, _, _, rfl⟩ :=
    registerSourceBody_inv run
  · have own : record.id = id := coherent.sources.id id record found
    subst own
    simp only [HealthView.registerSource, State.view, named, sourceViews_insert]
    simp only [sourceViews, found, Option.map_some]
    rfl
  · simp only [HealthView.registerSource, State.view, unnamed, sourceViews_insert,
      getElem?_insert_eq_update]
    rfl

/-- Registering a module in the view (source `Registry::register_module`). -/
lemma view_registerModule [StdSort] {registration : ModuleRegistration} {handle : ModuleHandle}
    (run : registerModuleBody config clock registration authority s generation sequence =
      .ok (s', handle)) :
    s'.view = s.view.registerModule registration.key registration.intent := by
  obtain ⟨_, t, uid, located, record, claims, locate, settle, _, rfl⟩ := registerModuleBody_inv run
  have same : ({ record with claims, lifecycle := trimLifecycle config record.lifecycle } :
      ModuleRecord).view = located.view := (SameEvidence.settle settle).view
  obtain ⟨unnamed, _, rfl, rfl, rfl⟩ | ⟨old, named, found, ⟨intent, _, _, rfl, rfl⟩ |
    ⟨intent, replaced⟩⟩ := locateModule_inv locate
  · simp only [HealthView.registerModule, State.view, unnamed, moduleViews_insert, same,
      Function.update_idem, getElem?_insert_eq_update]
    rfl
  · simp only [HealthView.registerModule, State.view, named, intent,
      moduleViews_replace found same]
    rfl
  · obtain ⟨_, rfl, rfl⟩ := replaceIncarnation_inv replaced
    simp only [HealthView.registerModule, State.view, named, intent, moduleViews_insert, same]
    simp only [moduleViews, found, Option.map_some]
    rfl

/-- The latches after an ingestion in the view (source `Registry::ingest_health`, the latch
block). -/
lemma latchView_ingestedLatches (record : ModuleRecord) (sample : HealthSampleInput)
    (wall : WallNs) : latchView (ingestedLatches s record sample wall sequence generation) =
      record.view.advance s.view.thresholds sample := by
  unfold ingestedLatches ModuleView.advance
  by_cases present : sample.presence = .present
  · rw [if_pos present, if_pos present]
    simp only [State.view, selectThreshold_unstamped]
    cases selectThreshold (liveThresholds s) sample.metric sample.lane with
    | none => rfl
    | some threshold =>
      funext metric lane
      simp only [latchView, latchOf_updateLatch, Option.map_some]
      split
      · exact advanceLatch_move _ _ _ _ _ _
      · rfl
  · rw [if_neg present, if_neg present]
    rfl

/-- Ingesting a measurement in the view (source `Registry::ingest_health`). -/
lemma view_ingestHealth (coherent : Coherent config s) {sample : HealthSampleInput} {u : Unit}
    (fits : ∀ record ∈ s.modules[module.uid]?,
      BelowCaps config record (seriesKey sample.metric sample.lane))
    (run : ingestHealthBody config clock authority module sample (clock.wallNowNs 0) s generation
      sequence = .ok (s', u)) :
    s'.view = s.view.ingestHealth clock authority module sample := by
  obtain ⟨_, record, stored, latches, found, current, stores, _, latched, trim, trims, rfl⟩ :=
    ingestHealthBody_inv run
  have own : record.uid = module.uid := coherent.modules.uid module.uid record found
  have observed : stored.unstamped = observation clock authority module sample := by
    rw [stores, HealthSample.unstamped, storedSample, observation, own, current]
  have kept : trim.samples = record.samples ++ [stored] := by
    rw [trims]
    exact trimSamples_of_belowCaps (fits record found)
  have view : ({ record with samples := trim.samples, seriesCounts := trim.seriesCounts, latches } :
      ModuleRecord).view = { record.view with
        samples := record.view.samples ++ [observation clock authority module sample]
        latches := record.view.advance s.view.thresholds sample } := by
    simp only [ModuleRecord.view, kept, List.map_append, List.map_cons, List.map_nil, observed,
      latched]
    congr 1
    exact latchView_ingestedLatches record sample _
  simp only [HealthView.ingestHealth, State.view, moduleViews_insert, view]
  simp only [moduleViews, found, Option.map_some]
  rfl

/-- Publishing a threshold retires the ones of its series (source `Registry::publish_threshold`). -/
lemma liveThresholds_publish (config : RegistryConfig) (threshold : HealthThreshold)
    (thresholds : List ThresholdRecord) (added : ThresholdRecord) (live : added.live = true) :
    ((trimThresholds config threshold (retireThresholds threshold thresholds ++ [added])).filter
      (·.live)).map (·.threshold) =
    (((thresholds.filter (·.live)).map (·.threshold)).filter fun t =>
      ¬ (t.metric = threshold.metric ∧ t.lane = threshold.lane)) ++ [added.threshold] := by
  have trimmed (l : List ThresholdRecord) :
      (trimThresholds config threshold l).filter (·.live) = l.filter (·.live) := by
    unfold trimThresholds
    split
    · obtain same | ⟨record, front, back, _, dropped, parts, erased⟩ :=
        List.exists_or_eq_self_of_eraseP (fun record => !record.live && record.governs threshold) l
      · rw [same]
      · have dead : record.live = false := by
          rw [Bool.and_eq_true, Bool.not_eq_true'] at dropped
          exact dropped.1
        rw [erased, parts]
        simp [dead]
    · rfl
  have retired : (retireThresholds threshold thresholds).filter (·.live) =
      (thresholds.filter (·.live)).filter fun record => !record.governs threshold := by
    unfold retireThresholds
    induction thresholds with
    | nil => rfl
    | cons record rest ih =>
      rw [List.map_cons, List.filter_cons, ih, List.filter_cons]
      cases inForce : record.live with
      | false => simp [inForce]
      | true =>
        cases same : record.governs threshold with
        | false => simp [inForce, same]
        | true => simp [same]
  have governs (record : ThresholdRecord) : (!record.governs threshold) =
      decide (¬ (record.threshold.metric = threshold.metric ∧
        record.threshold.lane = threshold.lane)) := by
    simp [ThresholdRecord.governs]
  rw [trimmed, List.filter_append, List.map_append, retired, List.filter_map]
  simp only [governs, Function.comp_def, List.filter_cons, live, if_true, List.filter_nil,
    List.map_cons, List.map_nil]

/-- Publishing a threshold in the view (source `Registry::publish_threshold`). -/
lemma view_publishThreshold {threshold : HealthThreshold} {u : Unit}
    (run : publishThresholdBody config authority threshold s generation sequence = .ok (s', u)) :
    s'.view = s.view.publishThreshold authority threshold := by
  obtain ⟨_, _, rfl⟩ := publishThresholdBody_inv run
  have thresholds := liveThresholds_publish config threshold s.thresholds
    (newThreshold authority generation sequence threshold) rfl
  simp only [HealthView.publishThreshold, State.view, liveThresholds, thresholds, List.map_append,
    List.filter_map]
  rfl

/-- Moving a module within its lifecycle does not show in the view. -/
lemma view_move {uid : ModuleUid} {record record' : ModuleRecord}
    (found : s.modules[uid]? = some record) (same : record'.view = record.view)
    (attachments : Std.ExtTreeMap Bytes AttachmentRecord compare) :
    State.view { s with modules := s.modules.insert uid record', attachments } = s.view := by
  simp only [State.view, moduleViews_replace found same]
  rfl

/-- What a call does to the view of a state: within the bounds of the samples the registry moves as
its view does. -/
lemma view_body [StdSort] (coherent : Coherent config s) {operation : Operation}
    (fits : SamplesFit config s ⟨operation, clock⟩)
    (run : operation.body config clock s generation sequence = .ok s') :
    s'.view = s.view.apply ⟨operation, clock⟩ := by
  cases operation <;> rw [Operation.body, fst_map_eq_ok] at run <;> obtain ⟨result, run⟩ := run
  case registerSource => exact view_registerSource coherent run
  case registerModule => exact view_registerModule run
  case updateIdentity =>
    obtain ⟨_, record, claims, found, _, rfl⟩ := updateIdentityBody_inv run
    refine view_move found ?_ s.attachments
    rfl
  case publishCapability =>
    obtain ⟨_, record, declarations, found, _, rfl⟩ := publishCapabilityBody_inv run
    refine view_move found ?_ s.attachments
    rfl
  case publishPortCapability =>
    obtain ⟨_, _, _, _, _, _, _, rfl⟩ := publishPortCapabilityBody_inv run
    rfl
  case attach =>
    obtain ⟨_, record, found, _, ⟨_, _, rfl⟩ | ⟨_, _, _, rfl, rfl⟩⟩ := attachBody_inv run
    · rfl
    · refine view_move found ?_ _
      split
      · exact (record.move_sameEvidence config _).view
      · rfl
  case detach authority slot _ =>
    obtain ⟨_, attachment, _, _, rfl⟩ := detachBody_inv run
    split
    · rename_i record found
      split
      · exact view_move found (record.move_sameEvidence config _).view _
      · rfl
    · rfl
  case ingestHealth => exact view_ingestHealth coherent fits run
  case publishThreshold => exact view_publishThreshold run
  case publishRule =>
    obtain ⟨_, _, rfl⟩ := publishRuleBody_inv run
    rfl
  case retireRule =>
    obtain ⟨_, _, _, _, rfl⟩ := retireRuleBody_inv run
    rfl
  case transition =>
    obtain ⟨_, record, found, _, _, rfl, rfl⟩ := transitionBody_inv run
    exact view_move found (record.move_sameEvidence config _).view s.attachments
  case reconcileLifecycle =>
    obtain ⟨_, record, target, found, _, _, ⟨_, rfl⟩ | ⟨_, _, rfl, rfl⟩⟩ :=
      reconcileLifecycleBody_inv run
    · rfl
    · exact view_move found (record.move_sameEvidence config _).view s.attachments

/-- Within the bounds of the samples, a step of the registry is a step of its view (source
`RegistryImpl::mutate`). -/
theorem view_step [StdSort] (coherent : Coherent config s) {call : Call}
    (fits : SamplesFit config s call) (taken : step config s call = some s') :
    s'.view = s.view.apply call := by
  obtain ⟨_, next, run, rfl⟩ := step_eq_some taken
  obtain ⟨operation, clock⟩ := call
  have moved : next.view = (nextSequence s).2.view.apply ⟨operation, clock⟩ :=
    view_body coherent.nextSequence fits run
  exact moved

/-- The source has this epoch in the view. -/
def HealthView.isLive (v : HealthView) (source : SourceId) (epoch : SourceEpoch) : Bool :=
  (v.sources source).any fun view => view.1 = epoch

/-- A source is live in the view of a state when it is live (source `source_is_live`). -/
lemma isLive_view (s : State) (source : SourceId) (epoch : SourceEpoch) :
    s.view.isLive source epoch = sourceIsLive s source epoch := by
  simp only [HealthView.isLive, State.view, sourceViews, sourceIsLive]
  cases s.sources[source]? <;> rfl

/-- A sample of a source for a series that is live in the view. -/
def HealthView.liveSample (v : HealthView) (m : ModuleView) (metric : HealthMetric) (lane : UInt16)
    (source : SourceId) (sample : HealthSample) : Bool :=
  sample.module = m.uid && sample.incarnation = m.incarnation &&
  v.isLive sample.source sample.sourceEpoch && sample.source = source &&
  (sample.metric = metric && sample.lane = lane)

/-- The newest live sample of a source for a series in the view. -/
def HealthView.newestLive (v : HealthView) (m : ModuleView) (metric : HealthMetric)
    (lane : UInt16) (source : SourceId) : Option HealthSample :=
  newest (v.liveSample m metric lane source) HealthSample.wall m.samples

/-- There is a fenced sample of a series in the view. -/
def HealthView.fenced (v : HealthView) (m : ModuleView) (metric : HealthMetric) (lane : UInt16) :
    Bool :=
  m.samples.any fun sample => sample.module = m.uid &&
    !(decide (sample.incarnation = m.incarnation) && v.isLive sample.source sample.sourceEpoch) &&
    (sample.metric = metric && sample.lane = lane)

section Shown

variable {now : WallNs} {record record' : ModuleRecord} {metric : HealthMetric} {lane : UInt16}

/-- The newest live sample in the view of a state is the stored one without its numbers. -/
lemma newestLive_view (source : SourceId) :
    s.view.newestLive record.view metric lane source =
      (newest (liveSample s record metric lane source) HealthSample.wall record.samples).map
        HealthSample.unstamped := by
  rw [HealthView.newestLive, ModuleRecord.view, newest_map]
  congr 2
  funext sample
  simp only [HealthView.liveSample, isLive_view]
  rfl

/-- There is a fenced sample in the view of a state when one is stored. -/
lemma fenced_view : s.view.fenced record.view metric lane = true ↔
    ∃ sample ∈ record.samples, fencedSample s record metric lane sample = true := by
  rw [HealthView.fenced, ModuleRecord.view, List.any_map, List.any_eq_true]
  simp only [Function.comp_apply, isLive_view]
  rfl

/-- The judged state is a function of the view. -/
lemma judgedSeries_view (thresholds : s'.view.thresholds = s.view.thresholds)
    (samples : ∀ source, s'.view.newestLive record'.view metric lane source =
      s.view.newestLive record.view metric lane source)
    (fenced : (∃ source, s.view.newestLive record.view metric lane source ≠ none) ∨
      s'.view.fenced record'.view metric lane = s.view.fenced record.view metric lane) :
    judgedSeries config now s' record' metric lane = judgedSeries config now s record metric lane := by
  refine judgedSeries_congr ?_ (fun source => ?_) ?_
  · rw [← selectThreshold_unstamped, ← selectThreshold_unstamped]
    exact congrArg (selectThreshold · metric lane) thresholds
  · rw [← newestLive_view, ← newestLive_view, samples]
  · obtain ⟨source, live⟩ | same := fenced
    · rw [newestLive_view] at live
      exact .inl ⟨source, fun none => live (by rw [none, Option.map_none])⟩
    · refine .inr ?_
      rw [← fenced_view, ← fenced_view, same]

/-- What is shown for a series depends on the view of its latch (source `build_health_report`, the
latch). -/
lemma shownSeries_view (s : State) (record : ModuleRecord) :
    shownSeries config now s record metric lane =
      if isThresholdZone (judgedSeries config now s record metric lane) = true ∧
          isThresholdZone (record.view.latches metric lane).1 = true then
        (record.view.latches metric lane).1
      else judgedSeries config now s record metric lane :=
  shownState_latchOf _ _ _ _

end Shown

end TransceiverRegistry
