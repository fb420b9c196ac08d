import TransceiverRegistry.Registry.Historical

/-!
# Evidence of retired epochs

The samples that a source recorded under an earlier epoch are fenced when a series is judged, so
deleting the calls that recorded them does not change the judgement. What they leave behind is the
latch: the rows of a report are the same with and without them as long as none of them moved the
latch of its series.
-/

namespace TransceiverRegistry

open Lib

/-- The call hands over a measurement of a source under an epoch before the given one. -/
def Call.isRetired (source : SourceId) (epoch : SourceEpoch) (call : Call) : Bool :=
  match call.operation with
  | .ingestHealth authority _ _ _ => authority.source = source && authority.epoch < epoch
  | _ => false

/-- The sample was recorded by a source under an epoch before the given one. -/
def HealthSample.isRetired (source : SourceId) (epoch : SourceEpoch) (sample : HealthSample) :
    Bool :=
  sample.source = source && sample.sourceEpoch < epoch

/-- A view without the samples of retired epochs. -/
def HealthView.without (v : HealthView) (source : SourceId) (epoch : SourceEpoch) : HealthView :=
  { v with modules := fun uid => (v.modules uid).map fun m =>
      { m with samples := m.samples.filter fun sample => !sample.isRetired source epoch } }

/-- The measurement of a call leaves the zone and the count of the latch of its series: it is not
present, no threshold is in force, or the latch absorbs it. -/
def LatchUnmoved (s : State) (call : Call) : Prop :=
  match call.operation with
  | .ingestHealth _ module sample _ => sample.presence = .present →
    ∀ threshold ∈ selectThreshold (liveThresholds s) sample.metric sample.lane,
    ∀ record ∈ s.modules[module.uid]?,
      latchMove threshold (latchView record.latches sample.metric sample.lane) sample.value =
        latchView record.latches sample.metric sample.lane
  | _ => True

instance (s : State) (call : Call) : Decidable (LatchUnmoved s call) :=
  inferInstanceAs (Decidable (call.operation.onIngestion fun _ _ _ _ =>
    _ → ∀ threshold ∈ _, ∀ record ∈ _, _))

variable {source : SourceId} {epoch : SourceEpoch} {call : Call} {v : HealthView}

/-- A call that is kept does the same with and without the retired samples. -/
lemma without_apply (kept : call.isRetired source epoch = false) :
    (v.apply call).without source epoch = (v.without source epoch).apply call := by
  obtain ⟨operation, clock⟩ := call
  cases operation
  case registerSource descriptor _ =>
    simp only [HealthView.apply, HealthView.registerSource, HealthView.without]
    split <;> rfl
  case registerModule registration _ =>
    simp only [HealthView.apply, HealthView.registerModule, HealthView.without]
    split
    · split
      · rfl
      · simp only [HealthView.mk.injEq, true_and, and_true]
        funext uid
        simp only [Function.update_apply]
        split
        · simp only [Option.map_map]
          rfl
        · rfl
    · simp only [HealthView.mk.injEq, true_and, and_true]
      funext uid
      simp only [Function.update_apply]
      split <;> rfl
  case ingestHealth authority module sample _ =>
    have stays : (observation clock authority module sample).isRetired source epoch = false := kept
    simp only [HealthView.apply, HealthView.ingestHealth, HealthView.without, HealthView.mk.injEq,
      true_and, and_true]
    funext uid
    simp only [Function.update_apply]
    split
    · simp only [Option.map_map]
      congr 1
      funext m
      simp only [Function.comp_apply, List.filter_append, List.filter_cons, stays, Bool.not_false,
        if_true, List.filter_nil]
      rfl
    · rfl
  all_goals rfl

/-- A retired call that moves no latch leaves no trace but its sample. -/
lemma without_apply_retired {s : State} (retired : call.isRetired source epoch = true)
    (unmoved : LatchUnmoved s call) :
    (s.view.apply call).without source epoch = s.view.without source epoch := by
  obtain ⟨operation, clock⟩ := call
  cases operation
  case ingestHealth authority module sample _ =>
    have gone : (observation clock authority module sample).isRetired source epoch = true := retired
    have latches : ∀ record, s.modules[module.uid]? = some record →
        record.view.advance s.view.thresholds sample = record.view.latches := by
      intro record found
      unfold ModuleView.advance
      split
      · rename_i present
        rw [State.view, selectThreshold_unstamped]
        cases selected : selectThreshold (liveThresholds s) sample.metric sample.lane with
        | none => rfl
        | some threshold =>
          funext metric lane
          simp only [Option.map_some]
          split
          · rename_i own
            obtain ⟨rfl, rfl⟩ := own
            exact unmoved present threshold selected record found
          · rfl
      · rfl
    simp only [HealthView.apply, HealthView.ingestHealth, HealthView.without, HealthView.mk.injEq,
      true_and, and_true]
    funext uid
    rw [Function.update_apply]
    split
    · rename_i own
      subst own
      simp only [State.view, moduleViews]
      cases found : s.modules[module.uid]? with
      | none => rfl
      | some record =>
        have same := latches record found
        simp only [State.view] at same
        simp only [Option.map_some, List.filter_append, List.filter_cons, gone, Bool.not_true,
          Bool.false_eq_true, if_false, List.filter_nil, List.append_nil, same]
    · rfl
  all_goals cases retired

section Run

variable [StdSort] {config : RegistryConfig} {s s' t t' : State}

/-- The guard of the run with the retired calls: no sample is evicted, and no retired call moves a
latch. -/
def UnmovedRun (config : RegistryConfig) (source : SourceId) (epoch : SourceEpoch) (s : State)
    (call : Call) : Bool :=
  decide (SamplesFit config s call) &&
    (!call.isRetired source epoch || decide (LatchUnmoved s call))

/-- Without the retired calls a run ends in the same view, except for their samples. -/
lemma view_runGuarded_filter {calls : List Call} (coherent : Coherent config s)
    (coherent' : Coherent config t) (same : t.view = s.view.without source epoch)
    (whole : runGuarded (step config) (UnmovedRun config source epoch) calls s = some s')
    (rest : runGuarded (step config) (fun s call => decide (SamplesFit config s call))
      (calls.filter fun call => !call.isRetired source epoch) t = some t') :
    t'.view = s'.view.without source epoch := by
  have run := runGuarded_filter
    (R := fun s t => (Coherent config s ∧ Coherent config t) ∧
      t.view = s.view.without source epoch) ?_ ?_ ⟨⟨coherent, coherent'⟩, same⟩ whole rest
  · exact run.2
  · rintro s t call s' t' ⟨⟨coherent, coherent'⟩, same⟩ kept fits fits' taken taken'
    have kept : call.isRetired source epoch = false := by simpa using kept
    have fits := (Bool.and_eq_true _ _).mp fits |>.1
    refine ⟨⟨coherent.step taken, coherent'.step taken'⟩, ?_⟩
    rw [view_step coherent' (of_decide_eq_true fits') taken',
      view_step coherent (of_decide_eq_true fits) taken, same, without_apply kept]
  · rintro s t call s' ⟨⟨coherent, coherent'⟩, same⟩ dropped fits taken
    have retired : call.isRetired source epoch = true := by simpa using dropped
    simp only [UnmovedRun, retired, Bool.not_true, Bool.false_or, Bool.and_eq_true,
      decide_eq_true_eq] at fits
    refine ⟨⟨coherent.step taken, coherent'⟩, ?_⟩
    rw [view_step coherent fits.1 taken, without_apply_retired retired fits.2, same]

/-- A series has a live sample. -/
def HasLive (s : State) (record : ModuleRecord) (metric : HealthMetric) (lane : UInt16) : Prop :=
  ∃ sample ∈ record.samples, liveSample s record metric lane sample.source sample = true

instance (s : State) (record : ModuleRecord) (metric : HealthMetric) (lane : UInt16) :
    Decidable (HasLive s record metric lane) := by
  unfold HasLive
  infer_instance

omit [StdSort] in
/-- What is known of a live sample (source `build_health_report`, `marked`). -/
lemma liveSample_iff {record : ModuleRecord} {metric : HealthMetric} {lane : UInt16}
    {sample : HealthSample} : liveSample s record metric lane source sample = true ↔
      sample.module = record.uid ∧ sample.incarnation = record.incarnation ∧
      sourceIsLive s sample.source sample.sourceEpoch = true ∧ sample.source = source ∧
      sample.metric = metric ∧ sample.lane = lane := by
  simp only [liveSample, Bool.and_eq_true, decide_eq_true_eq]
  constructor
  · rintro ⟨⟨⟨⟨a, b⟩, c⟩, d⟩, e, f⟩
    exact ⟨a, b, c, d, e, f⟩
  · rintro ⟨a, b, c, d, e, f⟩
    exact ⟨⟨⟨⟨a, b⟩, c⟩, d⟩, e, f⟩

/-- A series with a live sample is a row of the report, and shows its state (source
`build_health_report`). -/
lemma mem_shown_iff {record : ModuleRecord} {metric : HealthMetric} {lane : UInt16}
    (live : HasLive s record metric lane) (now : WallNs) (domain : ClockDomainId)
    (state : MetricState) :
    (metric, lane, state) ∈
        (buildHealthReport config now domain s record).metrics.map MetricHealth.shown ↔
      state = shownSeries config now s record metric lane := by
  rw [metrics_shown, List.mem_map]
  constructor
  · rintro ⟨row, _, same⟩
    obtain ⟨rfl, rfl, rfl⟩ := by simpa only [Prod.mk.injEq] using same
    rfl
  · rintro rfl
    obtain ⟨sample, stored, live⟩ := live
    obtain ⟨_, current, _, _, ofMetric, ofLane⟩ := liveSample_iff.1 live
    refine ⟨seriesKey metric lane, ?_, by rw [ofCode_seriesKey]; rfl⟩
    refine mem_reportRows.2 (.inr (.inl (List.mem_map.2 ⟨sample, ?_, by rw [ofMetric, ofLane]⟩)))
    exact List.mem_filter.2 ⟨stored, decide_eq_true current⟩

variable {s₁ s₂ : State}

omit [StdSort] in
/-- A module has a record in the view without the retired samples (source `State::modules`). -/
lemma exists_without (same : s₂.view = s₁.view.without source epoch) {uid : ModuleUid}
    {record₁ : ModuleRecord} (found : s₁.modules[uid]? = some record₁) :
    ∃ record₂, s₂.modules[uid]? = some record₂ ∧ record₂.view = { record₁.view with
      samples := record₁.view.samples.filter fun sample => !sample.isRetired source epoch } := by
  have view := congrFun (congrArg HealthView.modules same) uid
  simp only [HealthView.without, State.view, moduleViews, found, Option.map_some,
    Option.map_eq_some_iff] at view
  exact view

section Live

variable {uid : ModuleUid} {record₁ record₂ : ModuleRecord} {metric : HealthMetric} {lane : UInt16}

omit [StdSort] in
/-- The retired samples are not live, so the newest live samples are the same without them. -/
lemma newestLive_without (same : s₂.view = s₁.view.without source epoch)
    (view : record₂.view = { record₁.view with
      samples := record₁.view.samples.filter fun sample => !sample.isRetired source epoch })
    (later : ∀ current, sourceIsLive s₁ source current = true → epoch ≤ current)
    (other : SourceId) : s₂.view.newestLive record₂.view metric lane other =
      s₁.view.newestLive record₁.view metric lane other := by
  have live : s₂.view.liveSample record₂.view metric lane other =
      s₁.view.liveSample record₁.view metric lane other := by
    rw [same, view]
    rfl
  have samples : record₂.view.samples =
      record₁.view.samples.filter fun sample => !sample.isRetired source epoch :=
    congrArg ModuleView.samples view
  rw [HealthView.newestLive, HealthView.newestLive, live, samples, newest_filter]
  congr 1
  funext sample
  cases alive : s₁.view.liveSample record₁.view metric lane other sample with
  | false => rw [Bool.and_false]
  | true =>
    simp only [HealthView.liveSample, Bool.and_eq_true, decide_eq_true_eq, isLive_view] at alive
    obtain ⟨⟨⟨_, current⟩, _⟩, _⟩ := alive
    have kept : sample.isRetired source epoch = false := by
      rw [HealthSample.isRetired, Bool.and_eq_false_imp]
      rintro own
      obtain rfl := of_decide_eq_true own
      exact decide_eq_false (UInt32.not_lt.2 (later _ current))
    rw [kept, Bool.and_true]
    rfl

omit [StdSort] in
/-- A series has a live sample in a state when it has a newest one in the view. -/
lemma hasLive_iff {record : ModuleRecord} : HasLive s record metric lane ↔
    ∃ source, s.view.newestLive record.view metric lane source ≠ none := by
  constructor
  · rintro ⟨sample, stored, live⟩
    refine ⟨sample.source, fun none => ?_⟩
    rw [newestLive_view, Option.map_eq_none_iff] at none
    obtain ⟨_, all⟩ | ⟨newestSample, found, _⟩ := newest_spec
      (liveSample s record metric lane sample.source) HealthSample.wall record.samples
    · rw [all sample stored] at live
      cases live
    · rw [none] at found
      cases found
  · rintro ⟨source, some⟩
    rw [newestLive_view, Ne, Option.map_eq_none_iff] at some
    obtain ⟨none, _⟩ | ⟨sample, _, isNewest⟩ := newest_spec
      (liveSample s record metric lane source) HealthSample.wall record.samples
    · exact absurd none some
    · have own := (liveSample_iff.1 isNewest.holds).2.2.2.1
      exact ⟨sample, isNewest.mem, own ▸ isNewest.holds⟩

end Live

/-- When no call of an earlier epoch moves a latch and no sample is evicted, the rows with a live
sample are the same in a run and in the run without the measurements that the source handed over
under its earlier epochs (source `Registry::ingest_health`, `build_health_report`). -/
theorem retired_epoch_decides_nothing {calls : List Call}
    (whole : runGuarded (step config) (UnmovedRun config source epoch) calls State.initial =
      some s₁)
    (rest : runGuarded (step config) (fun s call => decide (SamplesFit config s call))
      (calls.filter fun call => !call.isRetired source epoch) State.initial = some s₂)
    (later : ∀ current, sourceIsLive s₁ source current = true → epoch ≤ current)
    {uid : ModuleUid} {record₁ : ModuleRecord} (found : s₁.modules[uid]? = some record₁) :
    ∃ record₂, s₂.modules[uid]? = some record₂ ∧ ∀ metric lane,
      (HasLive s₁ record₁ metric lane ↔ HasLive s₂ record₂ metric lane) ∧
      (HasLive s₁ record₁ metric lane → ∀ now domain state,
        (metric, lane, state) ∈
            (buildHealthReport config now domain s₁ record₁).metrics.map MetricHealth.shown ↔
          (metric, lane, state) ∈
            (buildHealthReport config now domain s₂ record₂).metrics.map MetricHealth.shown) := by
  have same : s₂.view = s₁.view.without source epoch :=
    view_runGuarded_filter Coherent.initial Coherent.initial rfl whole rest
  obtain ⟨record₂, found₂, view⟩ := exists_without same found
  refine ⟨record₂, found₂, fun metric lane => ?_⟩
  have newestSame (other : SourceId) : s₂.view.newestLive record₂.view metric lane other =
      s₁.view.newestLive record₁.view metric lane other := newestLive_without same view later other
  have both : HasLive s₁ record₁ metric lane ↔ HasLive s₂ record₂ metric lane := by
    simp only [hasLive_iff, newestSame]
  refine ⟨both, fun live now domain state => ?_⟩
  have thresholds : s₂.view.thresholds = s₁.view.thresholds :=
    (congrArg HealthView.thresholds same).trans rfl
  have latches : record₂.view.latches = record₁.view.latches :=
    (congrArg ModuleView.latches view).trans rfl
  have judged : judgedSeries config now s₂ record₂ metric lane =
      judgedSeries config now s₁ record₁ metric lane :=
    judgedSeries_view thresholds newestSame (.inl (hasLive_iff.1 live))
  rw [mem_shown_iff live, mem_shown_iff (both.1 live), shownSeries_view, shownSeries_view, judged,
    latches]

end Run

/-- The authority of the first source after it was registered again without an instance id. -/
def renewed : AuthorityToken := ⟨1, 2⟩

/-- Publish the temperature policy under an authority. -/
def publishPolicyBy (authority : AuthorityToken) : Call :=
  Operation.now (.publishThreshold authority (temperaturePolicy 1) .autoRetry)

/-- A hot reading under the first epoch, and a cool one under the second. -/
def hotThenCool : List Call :=
  [registerHost, registerBay bayA .ensureCurrent, publishPolicyBy host, measured host 90 100,
    registerHost, measured renewed 20 100]

/-- A fenced reading decides the state of a row: with it the row is critical, without it the row is
ok (source `Registry::ingest_health`, the latch block). -/
theorem retired_epoch_decides_row :
    ∃ s₁ s₂ record₁ record₂,
      runGuarded (step {}) (fun s call => decide (SamplesFit {} s call)) hotThenCool
        State.initial = some s₁ ∧
      runGuarded (step {}) (fun s call => decide (SamplesFit {} s call))
        (hotThenCool.filter fun call => !call.isRetired 1 2) State.initial = some s₂ ∧
      sourceIsLive s₁ 1 2 = true ∧ s₁.modules[(1 : UInt64)]? = some record₁ ∧
      s₂.modules[(1 : UInt64)]? = some record₂ ∧
      HasLive s₁ record₁ .temperatureCelsius kModuleLane ∧
      (buildHealthReport {} 100 1 s₁ record₁).metrics.map MetricHealth.shown =
        [(.temperatureCelsius, kModuleLane, .critical)] ∧
      (buildHealthReport {} 100 1 s₂ record₂).metrics.map MetricHealth.shown =
        [(.temperatureCelsius, kModuleLane, .ok)] := by
  have with_ : (runGuarded (step {}) (fun s call => decide (SamplesFit {} s call)) hotThenCool
      State.initial).any (fun s => sourceIsLive s 1 2 && s.modules[(1 : UInt64)]?.any fun record =>
        decide (HasLive s record .temperatureCelsius kModuleLane) &&
        decide ((buildHealthReport {} 100 1 s record).metrics.map MetricHealth.shown =
          [(.temperatureCelsius, kModuleLane, .critical)])) = true := by decide +kernel
  have without : (runGuarded (step {}) (fun s call => decide (SamplesFit {} s call))
      (hotThenCool.filter fun call => !call.isRetired 1 2) State.initial).any (fun s =>
        s.modules[(1 : UInt64)]?.any fun record =>
        decide ((buildHealthReport {} 100 1 s record).metrics.map MetricHealth.shown =
          [(.temperatureCelsius, kModuleLane, .ok)])) = true := by decide +kernel
  simp only [Option.any_eq_true, Bool.and_eq_true, decide_eq_true_eq] at with_ without
  obtain ⟨s₁, whole, renewed, record₁, found₁, live, critical⟩ := with_
  obtain ⟨s₂, rest, record₂, found₂, cool⟩ := without
  exact ⟨s₁, s₂, record₁, record₂, whole, rest, renewed, found₁, found₂, live, critical, cool⟩

/-- A hot reading before there is a policy, and a cool one under the second epoch. -/
def hotWithoutPolicy : List Call :=
  [registerHost, registerBay bayA .ensureCurrent, measured host 90 100, registerHost,
    publishPolicyBy renewed, measured renewed 20 100]

/-- A fenced reading that moved no latch does not show. -/
theorem retired_epoch_decides_nothing_unlatched :
    ∃ s₁ s₂ record₁ record₂,
      runGuarded (step {}) (UnmovedRun {} 1 2) hotWithoutPolicy State.initial = some s₁ ∧
      runGuarded (step {}) (fun s call => decide (SamplesFit {} s call))
        (hotWithoutPolicy.filter fun call => !call.isRetired 1 2) State.initial = some s₂ ∧
      s₁.modules[(1 : UInt64)]? = some record₁ ∧ s₂.modules[(1 : UInt64)]? = some record₂ ∧
      ∀ state, (.temperatureCelsius, kModuleLane, state) ∈
          (buildHealthReport {} 100 1 s₁ record₁).metrics.map MetricHealth.shown ↔
        (.temperatureCelsius, kModuleLane, state) ∈
          (buildHealthReport {} 100 1 s₂ record₂).metrics.map MetricHealth.shown := by
  have with_ : (runGuarded (step {}) (UnmovedRun {} 1 2) hotWithoutPolicy State.initial).any
      (fun s => decide (s.sources[(1 : UInt32)]?.map (·.epoch) = some 2) &&
        s.modules[(1 : UInt64)]?.any fun record =>
          decide (HasLive s record .temperatureCelsius kModuleLane)) = true := by decide +kernel
  have without : (runGuarded (step {}) (fun s call => decide (SamplesFit {} s call))
      (hotWithoutPolicy.filter fun call => !call.isRetired 1 2) State.initial).isSome = true := by
    decide +kernel
  simp only [Option.any_eq_true, Bool.and_eq_true, decide_eq_true_eq, Option.map_eq_some_iff]
    at with_
  obtain ⟨s₁, whole, ⟨source, known, second⟩, record₁, found₁, live⟩ := with_
  obtain ⟨s₂, rest⟩ := Option.isSome_iff_exists.1 without
  have later (current : SourceEpoch) (alive : sourceIsLive s₁ 1 current = true) : 2 ≤ current := by
    rw [sourceIsLive, known] at alive
    rw [← of_decide_eq_true alive, second]
    exact UInt32.le_refl 2
  obtain ⟨record₂, found₂, same⟩ := retired_epoch_decides_nothing whole rest later found₁
  exact ⟨s₁, s₂, record₁, record₂, whole, rest, found₁, found₂,
    (same .temperatureCelsius kModuleLane).2 live 100 1⟩

end TransceiverRegistry
