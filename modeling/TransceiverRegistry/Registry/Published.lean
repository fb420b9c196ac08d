import TransceiverRegistry.Registry.Shown

/-!
# Health under the published policy

A report judges the fresh values of a series by the threshold in force, and then shows the zone that
the series has latched. A latch is moved by measurements only, so after a threshold is published the
report shows the zone that an earlier policy left, until the next measurement.
-/

namespace TransceiverRegistry

open Lib

/-- A value is on the nominal side of a bound. -/
def ThresholdDirection.spares (direction : ThresholdDirection) (value bound : Binary64) : Bool :=
  match direction with
  | .above => value.lt bound
  | .below => bound.lt value

/-- A value is on the nominal side of all bounds of a threshold. -/
def HealthThreshold.Nominal (threshold : HealthThreshold) (value : Binary64) : Prop :=
  (threshold.hasDegraded = true →
    threshold.direction.spares value threshold.degradedEnter = true ∧
      threshold.direction.spares value threshold.degradedExit = true) ∧
  (threshold.hasCritical = true →
    threshold.direction.spares value threshold.criticalEnter = true ∧
      threshold.direction.spares value threshold.criticalExit = true)

/-- A value is at or beyond the critical enter bound of a threshold. -/
def HealthThreshold.Beyond (threshold : HealthThreshold) (value : Binary64) : Prop :=
  threshold.direction.reaches value threshold.criticalEnter = true

/-- The fresh values of the live sources of a series (source `classify_series`, `fresh_values`). -/
def freshValues (config : RegistryConfig) (now : WallNs) (s : State) (record : ModuleRecord)
    (metric : HealthMetric) (lane : UInt16) (threshold : HealthThreshold) : List Binary64 :=
  ((((seriesOf s record metric lane).foldl (scanSample record.uid record.incarnation)
    ([], 0)).1.map (·.2)).filter
      (·.usable threshold.maxAgeNs now config.maxFutureSkewNs)).map (·.value)

/-- There are fresh values, and they agree within the tolerance (source `classify_series`). -/
def HealthThreshold.Agreeing (threshold : HealthThreshold) : List Binary64 → Prop
  | [] => False
  | first :: rest => ¬ (1 < (first :: rest).length ∧
      threshold.disagreementTolerance.lt (spread first (first :: rest)) = true)

/-- A row is not shown as worse than nominal values are, nor as better than critical values are. -/
def GovernedBy (threshold : HealthThreshold) (values : List Binary64) (shown : MetricState) :
    Prop :=
  ((∀ value ∈ values, threshold.Nominal value) → shown ≠ .degraded ∧ shown ≠ .critical) ∧
  (threshold.hasCritical = true → (∀ value ∈ values, threshold.Beyond value) → shown ≠ .ok)

/-- A latch is not at odds with the fresh values, when they agree: neither worse than nominal ones
nor better than critical ones. -/
def LatchAgrees (threshold : HealthThreshold) (values : List Binary64) (latch : MetricState) :
    Prop :=
  threshold.Agreeing values → GovernedBy threshold values latch

section Judged

variable {config : RegistryConfig} {now : WallNs} {s : State} {record : ModuleRecord}
  {metric : HealthMetric} {lane : UInt16} {threshold : HealthThreshold} {value bound : Binary64}

/-- What spares a bound does not reach it. -/
lemma reaches_of_spares {direction : ThresholdDirection}
    (spares : direction.spares value bound = true) : direction.reaches value bound = false := by
  cases direction <;>
    simp only [ThresholdDirection.spares, ThresholdDirection.reaches, Binary64.lt, Binary64.le,
      Bool.and_eq_true, Bool.not_eq_true', decide_eq_true_eq] at spares ⊢ <;>
    simp [spares]

/-- A nominal value is classified as ok (source `classify_value`). -/
lemma HealthThreshold.Nominal.classify (nominal : threshold.Nominal value) :
    classifyValue threshold value = .ok := by
  have critical : (threshold.hasCritical &&
      threshold.direction.reaches value threshold.criticalEnter) = false := by
    cases has : threshold.hasCritical with
    | false => rfl
    | true => exact reaches_of_spares (nominal.2 has).1
  have degraded : (threshold.hasDegraded &&
      threshold.direction.reaches value threshold.degradedEnter) = false := by
    cases has : threshold.hasDegraded with
    | false => rfl
    | true => exact reaches_of_spares (nominal.1 has).1
  rw [classifyValue, critical, degraded]
  rfl

/-- A value beyond the critical bound is classified as critical (source `classify_value`). -/
lemma HealthThreshold.Beyond.classify (has : threshold.hasCritical = true)
    (beyond : threshold.Beyond value) : classifyValue threshold value = .critical := by
  unfold Beyond at beyond
  rw [classifyValue, has, beyond]
  rfl

/-- The newest fresh sample is one of the fresh ones. -/
structure FreshScan.Sound (scan : FreshScan) : Prop where
  none_iff : scan.newestFresh = none ↔ scan.freshValues = []
  among : ∀ best, scan.newestFresh = some best → best.1.value ∈ scan.freshValues

/-- A note leaves the newest fresh sample. -/
@[simp] lemma FreshScan.note_newestFresh (scan : FreshScan) (reason : String)
    (kind : HealthIssueKind) : (scan.note reason kind).newestFresh = scan.newestFresh := by
  unfold FreshScan.note
  split <;> rfl

/-- Judging a sample keeps the newest fresh one among the fresh ones (source `classify_series`, the
second loop). -/
lemma FreshScan.Sound.step {scan : FreshScan} (h : scan.Sound) (maxAgeNs now : WallNs)
    (skew : Int64) (sample : HealthSample) : (scanFresh maxAgeNs now skew scan sample).Sound := by
  have noted {scan' : FreshScan} {reason : String} {kind : HealthIssueKind}
      (values : scan'.freshValues = scan.freshValues)
      (newest : scan'.newestFresh = scan.newestFresh) : (scan'.note reason kind).Sound := by
    constructor
    · rw [note_newestFresh, note_freshValues, values, newest]
      exact h.none_iff
    · rw [note_newestFresh, note_freshValues, values, newest]
      exact h.among
  unfold scanFresh
  cases sample.presence with
  | notAvailable => exact noted rfl rfl
  | readError => exact noted rfl rfl
  | notSupported => exact noted rfl rfl
  | present =>
    dsimp only
    split
    · exact noted rfl rfl
    · split
      · exact noted rfl rfl
      · constructor
        · cases scan.newestFresh with
          | none => simp
          | some best =>
            dsimp only
            split <;> simp
        · intro best
          cases newest : scan.newestFresh with
          | none =>
            rintro ⟨⟩
            exact List.mem_append_right _ (List.mem_singleton_self _)
          | some earlier =>
            dsimp only
            split
            · rintro ⟨⟩
              exact List.mem_append_right _ (List.mem_singleton_self _)
            · rintro ⟨⟩
              exact List.mem_append_left _ (h.among _ newest)

/-- The newest fresh sample is one of the fresh ones (source `classify_series`, the second loop). -/
lemma FreshScan.Sound.foldl (maxAgeNs now : WallNs) (skew : Int64) (entries : NewestBySource)
    {scan : FreshScan} (h : scan.Sound) :
    (entries.foldl (fun scan entry => scanFresh maxAgeNs now skew scan entry.2) scan).Sound := by
  induction entries generalizing scan with
  | nil => exact h
  | cons entry rest ih => exact ih (h.step maxAgeNs now skew entry.2)

/-- What the second loop of the classification has seen of a series (source `classify_series`). -/
def freshScan (config : RegistryConfig) (now : WallNs) (s : State) (record : ModuleRecord)
    (metric : HealthMetric) (lane : UInt16) (threshold : HealthThreshold) : FreshScan :=
  ((seriesOf s record metric lane).foldl (scanSample record.uid record.incarnation)
    ([], 0)).1.foldl (fun scan entry =>
      scanFresh threshold.maxAgeNs now config.maxFutureSkewNs scan entry.2) {}

/-- The second loop collects the fresh values (source `classify_series`, `fresh_values`). -/
lemma freshScan_freshValues : (freshScan config now s record metric lane threshold).freshValues =
    freshValues config now s record metric lane threshold :=
  (freshValues_foldl _ _ _ _ {}).trans (List.nil_append _)

/-- Fresh values that agree are judged by one of them (source `classify_series`). -/
lemma judgedSeries_agreeing
    (selected : selectThreshold (liveThresholds s) metric lane = some threshold)
    (agreeing : threshold.Agreeing (freshValues config now s record metric lane threshold)) :
    ∃ value ∈ freshValues config now s record metric lane threshold,
      judgedSeries config now s record metric lane = classifyValue threshold value := by
  have sound : (freshScan config now s record metric lane threshold).Sound :=
    FreshScan.Sound.foldl _ _ _ _ ⟨iff_of_true rfl rfl, fun _ none => nomatch none⟩
  rw [← freshScan_freshValues] at agreeing ⊢
  have kept : ((seriesOf s record metric lane).foldl (scanSample record.uid record.incarnation)
      ([], 0)).1 ≠ [] := by
    intro none
    rw [freshScan, none] at agreeing
    exact agreeing
  cases values : (freshScan config now s record metric lane threshold).freshValues with
  | nil =>
    rw [values] at agreeing
    exact agreeing.elim
  | cons first rest =>
    cases newest : (freshScan config now s record metric lane threshold).newestFresh with
    | none =>
      rw [sound.none_iff.1 newest] at values
      cases values
    | some best =>
      have judged : judgedSeries config now s record metric lane =
          if 1 < (first :: rest).length ∧
              threshold.disagreementTolerance.lt (spread first (first :: rest)) = true then
            .conflicting
          else classifyValue threshold best.1.value := by
        simp only [judgedSeries, judgedState, selected, if_neg kept]
        rw [freshScan] at values newest
        rw [values, newest]
      have among := sound.among best newest
      rw [values] at agreeing among
      exact ⟨best.1.value, among, judged.trans (if_neg agreeing)⟩

/-- Values that are missing or at odds are not judged by the bounds (source `classify_series`). -/
lemma judgedSeries_not_agreeing
    (selected : selectThreshold (liveThresholds s) metric lane = some threshold)
    (not : ¬ threshold.Agreeing (freshValues config now s record metric lane threshold)) :
    isThresholdZone (judgedSeries config now s record metric lane) = false := by
  by_contra zone
  rw [Bool.not_eq_false] at zone
  have state : (classifySeries (seriesOf s record metric lane)
      (selectThreshold (liveThresholds s) metric lane) record.uid record.incarnation now
      config.maxFutureSkewNs).state = judgedSeries config now s record metric lane :=
    classifySeries_state _ _ _ _ _ _
  rw [← state] at zone
  obtain ⟨t, first, rest, selected', values, agree⟩ := classifySeries_zone zone
  rw [selected] at selected'
  cases selected'
  refine not ?_
  rw [show freshValues config now s record metric lane threshold = first :: rest from values]
  exact agree

/-- A row is governed by its threshold when its latch agrees with the values, and only then (source
`build_health_report`, the latch). -/
lemma governedBy_shownSeries_iff
    (selected : selectThreshold (liveThresholds s) metric lane = some threshold) :
    GovernedBy threshold (freshValues config now s record metric lane threshold)
        (shownSeries config now s record metric lane) ↔
      LatchAgrees threshold (freshValues config now s record metric lane threshold)
        (latchOf record.latches metric lane).state := by
  rw [shownSeries, shownState_latchOf]
  by_cases agreeing : threshold.Agreeing (freshValues config now s record metric lane threshold)
  · obtain ⟨value, member, judged⟩ := judgedSeries_agreeing selected agreeing
    have zone : isThresholdZone (judgedSeries config now s record metric lane) = true := by
      rw [judged]
      exact isThresholdZone_classifyValue _ _
    rw [LatchAgrees, forall_prop_of_true agreeing]
    by_cases latched : isThresholdZone (latchOf record.latches metric lane).state = true
    · rw [if_pos ⟨zone, latched⟩]
    · rw [if_neg fun both => latched both.2]
      refine iff_of_true ⟨fun nominal => ?_, fun has beyond => ?_⟩ ⟨fun _ => ?_, fun _ _ => ?_⟩
      · rw [judged, (nominal value member).classify]
        exact ⟨by rintro ⟨⟩, by rintro ⟨⟩⟩
      · rw [judged, (beyond value member).classify has]
        rintro ⟨⟩
      · constructor <;> intro state <;> exact latched (by rw [state]; rfl)
      · intro state
        exact latched (by rw [state]; rfl)
  · have unjudged := judgedSeries_not_agreeing selected agreeing
    have unlatched : ¬ (isThresholdZone (judgedSeries config now s record metric lane) = true ∧
        isThresholdZone (latchOf record.latches metric lane).state = true) := by
      rw [unjudged]
      exact fun both => Bool.false_ne_true both.1
    rw [if_neg unlatched]
    have outside {state : MetricState} (zone : isThresholdZone state = true) :
        judgedSeries config now s record metric lane ≠ state := by
      rintro rfl
      rw [unjudged] at zone
      cases zone
    exact iff_of_true ⟨fun _ => ⟨outside rfl, outside rfl⟩, fun _ _ => outside rfl⟩
      fun agreeing' => absurd agreeing' agreeing

end Judged

/-- The latch that a series of an incarnation of a module has, new when there is none. -/
def latchAt (s : State) (uid : ModuleUid) (incarnation : IncarnationId) (metric : HealthMetric)
    (lane : UInt16) : HealthLatch :=
  match s.modules[uid]? with
  | some record =>
    if record.incarnation = incarnation then latchOf record.latches metric lane else .new
  | none => .new

/-- A call that ingests no sample of a series of a module. -/
def Quiet (uid : ModuleUid) (metric : HealthMetric) (lane : UInt16) (_ : State) (call : Call) :
    Prop :=
  call.operation.onIngestion fun _ module sample _ =>
    ¬ (module.uid = uid ∧ sample.metric = metric ∧ sample.lane = lane)

/-- The latch of a series is the one its incarnation had in an earlier state. -/
structure LatchKept (s₀ : State) (uid : ModuleUid) (metric : HealthMetric) (lane : UInt16)
    (s : State) : Prop where
  stays : ∀ earlier, s₀.modules[uid]? = some earlier →
    ∃ record, s.modules[uid]? = some record ∧ earlier.incarnation ≤ record.incarnation
  same : ∀ record, s.modules[uid]? = some record →
    latchOf record.latches metric lane = latchAt s₀ uid record.incarnation metric lane

section Run

variable {config : RegistryConfig} {s₀ s s' : State} {uid written : ModuleUid}
  {metric : HealthMetric} {lane : UInt16} {record record' : ModuleRecord}

/-- The latches are kept from the start. -/
lemma LatchKept.start : LatchKept s uid metric lane s where
  stays earlier found := ⟨earlier, found, UInt32.le_refl _⟩
  same record found := by simp [latchAt, found]

/-- A record written with the same incarnation and the same latch of the series keeps it. -/
lemma LatchKept.write (h : LatchKept s₀ uid metric lane s)
    (modules : s'.modules = s.modules.insert written record')
    (found : s.modules[written]? = some record)
    (incarnation : record'.incarnation = record.incarnation)
    (latches : written = uid →
      latchOf record'.latches metric lane = latchOf record.latches metric lane) :
    LatchKept s₀ uid metric lane s' := by
  constructor
  · intro earlier before
    obtain ⟨current, stored, grown⟩ := h.stays earlier before
    rw [modules]
    by_cases here : written = uid
    · subst here
      rw [found] at stored
      cases stored
      exact ⟨record', Std.ExtTreeMap.getElem?_insert_self, incarnation ▸ grown⟩
    · exact ⟨current, getElem?_insert_iff.2 (.inr ⟨here, stored⟩), grown⟩
  · intro current stored
    rw [modules, getElem?_insert_iff] at stored
    obtain ⟨rfl, rfl⟩ | ⟨_, stored⟩ := stored
    · rw [latches rfl, incarnation]
      exact h.same record found
    · exact h.same current stored

/-- A record written without latches begins an incarnation that the earlier state did not have. -/
lemma LatchKept.begin (h : LatchKept s₀ uid metric lane s)
    (modules : s'.modules = s.modules.insert written record') (none : record'.latches = [])
    (newer : ∀ current, s.modules[written]? = some current →
      current.incarnation < record'.incarnation) : LatchKept s₀ uid metric lane s' := by
  constructor
  · intro earlier before
    obtain ⟨current, stored, grown⟩ := h.stays earlier before
    rw [modules]
    by_cases here : written = uid
    · subst here
      refine ⟨record', Std.ExtTreeMap.getElem?_insert_self, ?_⟩
      exact UInt32.le_of_lt (UInt32.lt_of_le_of_lt grown (newer current stored))
    · exact ⟨current, getElem?_insert_iff.2 (.inr ⟨here, stored⟩), grown⟩
  · intro current stored
    rw [modules, getElem?_insert_iff] at stored
    obtain ⟨rfl, rfl⟩ | ⟨_, stored⟩ := stored
    · have new : latchAt s₀ written record'.incarnation metric lane = .new := by
        unfold latchAt
        cases before : s₀.modules[written]? with
        | none => rfl
        | some earlier =>
          obtain ⟨current, known, grown⟩ := h.stays earlier before
          have later := UInt32.lt_of_le_of_lt grown (newer current known)
          exact if_neg (UInt32.ne_of_lt later)
      rw [new, none]
      rfl
    · exact h.same current stored

/-- An ingestion of another series leaves the latch (source `Registry::ingest_health`, the latch
block). -/
lemma latchOf_ingestedLatches {sample : HealthSampleInput} {wall : WallNs} {sequence : Sequence}
    {generation : Generation} (other : ¬ (sample.metric = metric ∧ sample.lane = lane)) :
    latchOf (ingestedLatches s record sample wall sequence generation) metric lane =
      latchOf record.latches metric lane := by
  unfold ingestedLatches
  split
  · split
    · rw [latchOf_updateLatch, if_neg other]
    · rfl
  · rfl

variable [StdSort]

/-- A quiet step keeps the latch of the series. -/
lemma LatchKept.step (coherent : Coherent config s) (h : LatchKept s₀ uid metric lane s)
    {call : Call} (quiet : Quiet uid metric lane s call) (taken : step config s call = some s') :
    LatchKept s₀ uid metric lane s' := by
  have moduleStep := step_moduleStep coherent taken
  obtain ⟨operation, clock⟩ := call
  cases moduleStep with
  | stay _ written =>
    constructor
    · rw [written]
      exact h.stays
    · rw [written]
      exact h.same
  | move _ found same written =>
    exact h.write written found same.incarnation fun _ => by rw [same.latches]
  | registerModule _ _ locate _ same written =>
    cases locate with
    | fresh absent _ _ _ _ _ latches _ =>
      refine h.begin written (same.latches.trans latches) fun current stored => ?_
      rw [absent] at stored
      cases stored
    | current found same' =>
      exact h.write written found (same.incarnation.trans same'.incarnation)
        fun _ => congrArg (latchOf · metric lane) (same.latches.trans same'.latches)
    | @renewed record found room next latches same' =>
      refine h.begin written (same.latches.trans latches) fun current stored => ?_
      rw [found] at stored
      cases stored
      have last : record.incarnation.toNat ≠ 2 ^ 32 - 1 := fun full =>
        room (UInt32.toNat_inj.1 full)
      have small := record.incarnation.toNat_lt
      have incarnation := same.incarnation.trans next
      rw [incarnation, UInt32.lt_iff_toNat_lt, UInt32.toNat_add, UInt32.toNat_one]
      omega
  | updateIdentity _ found _ written => exact h.write written found rfl fun _ => rfl
  | publishCapability _ found _ written => exact h.write written found rfl fun _ => rfl
  | ingestHealth _ found _ _ _ latched _ written =>
    refine h.write written found rfl fun own => ?_
    dsimp only
    rw [latched]
    exact latchOf_ingestedLatches fun series => quiet ⟨own, series⟩

/-- A threshold was published in a reachable state, and no sample of a series of a module was
ingested since (source `Registry::publish_threshold`, `Registry::ingest_health`). -/
structure PublishedLast (config : RegistryConfig) (uid : ModuleUid) (metric : HealthMetric)
    (lane : UInt16) (threshold : HealthThreshold) (s₀ s : State) : Prop where
  reached : Run (TransceiverRegistry.step config) Unguarded State.initial s₀
  published : ∃ authority input policy clock s₁,
    TransceiverRegistry.step config s₀
      ⟨.publishThreshold authority input policy, clock⟩ = some s₁ ∧
    threshold = (newThreshold authority (s₀.generation + 1) s₀.nextSequence input).threshold ∧
    Run (TransceiverRegistry.step config) (Quiet uid metric lane) s₁ s

/-- The series has the latch that its incarnation had when the threshold was published. -/
lemma PublishedLast.latch {threshold : HealthThreshold}
    (h : PublishedLast config uid metric lane threshold s₀ s)
    (found : s.modules[uid]? = some record) : latchOf record.latches metric lane =
      latchAt s₀ uid record.incarnation metric lane := by
  obtain ⟨authority, input, policy, clock, s₁, published, _, quiet⟩ := h.published
  have coherent : Coherent config s₀ :=
    h.reached.invariant (Coherent config) .initial fun _ _ _ h _ taken => h.step taken
  have quietCall : Quiet uid metric lane s₀ ⟨.publishThreshold authority input policy, clock⟩ :=
    trivial
  have start : LatchKept s₀ uid metric lane s₁ :=
    LatchKept.start.step coherent quietCall published
  have both := quiet.invariant (fun s => Coherent config s ∧ LatchKept s₀ uid metric lane s)
    ⟨coherent.step published, start⟩
    fun s call s' h allowed taken => ⟨h.1.step taken, h.2.step h.1 allowed taken⟩
  exact both.2.same record found

/-- A row whose threshold was published after the last sample of its series is governed by it, if
and only if the zone that was latched before the publication is not at odds with the fresh values
(source `build_health_report`, `Registry::publish_threshold`). -/
theorem published_policy_governs_iff {now : WallNs} {domain : ClockDomainId} {row : MetricHealth}
    {threshold : HealthThreshold} (found : s.modules[uid]? = some record)
    (member : row ∈ (buildHealthReport config now domain s record).metrics)
    (selected : selectThreshold (liveThresholds s) row.metric row.lane = some threshold)
    (published : PublishedLast config uid row.metric row.lane threshold s₀ s) :
    GovernedBy threshold (freshValues config now s record row.metric row.lane threshold)
        row.state ↔
      LatchAgrees threshold (freshValues config now s record row.metric row.lane threshold)
        (latchAt s₀ uid record.incarnation row.metric row.lane).state := by
  obtain ⟨_, inRows, rfl⟩ := List.mem_map.1 member
  obtain ⟨key, _, rfl⟩ := List.mem_map.1 inRows
  obtain ⟨ofMetric, ofLane, state⟩ := classifyRow_state config now s record key
  rw [ofMetric, ofLane] at selected published ⊢
  rw [state, ← published.latch found]
  exact governedBy_shownSeries_iff selected

end Run

deriving instance DecidableEq for HealthThreshold

instance (threshold : HealthThreshold) (value : Binary64) : Decidable (threshold.Nominal value) :=
  inferInstanceAs (Decidable (_ ∧ _))

/-- A temperature policy that leaves more room: degraded from 100 degrees, critical from 120. -/
def lenientPolicy : HealthThreshold :=
  { temperaturePolicy 1 with
    degradedEnter := .ofInt 100
    degradedExit := .ofInt 95
    criticalEnter := .ofInt 120
    criticalExit := .ofInt 110 }

/-- Publish the policy with more room. -/
def publishLenient : Call := Operation.now (.publishThreshold host lenientPolicy .autoRetry)

/-- The policy with more room as it is stored in a state. -/
def lenientStored (s : State) : HealthThreshold :=
  (newThreshold host (s.generation + 1) s.nextSequence lenientPolicy).threshold

/-- A measurement of the temperature. -/
def warmReading (value : Int) : Call :=
  Operation.now (.ingestHealth host ⟨1, 1, 0, bayA⟩
    ⟨.temperatureCelsius, kModuleLane, .present, .ofInt value, 1, 1, 1, hostEvidence⟩ .autoRetry)

/-- A measurement without a policy latches nothing, and the policy that is published next governs
its row. -/
theorem published_policy_governs_first :
    ∃ s₀ s record row, s.modules[(1 : UInt64)]? = some record ∧
      row ∈ (buildHealthReport {} 5 1 s record).metrics ∧ row.state = .ok ∧
      PublishedLast {} 1 row.metric row.lane (lenientStored s₀) s₀ s ∧
      (GovernedBy (lenientStored s₀)
          (freshValues {} 5 s record row.metric row.lane (lenientStored s₀)) row.state ↔
        LatchAgrees (lenientStored s₀)
          (freshValues {} 5 s record row.metric row.lane (lenientStored s₀))
          (latchAt s₀ 1 record.incarnation row.metric row.lane).state) := by
  have runs : (runActions (step {}) [registerHost, registerBay bayA .ensureCurrent, warmReading 75]
      State.initial).any (fun s₀ => (step {} s₀ publishLenient).any fun s =>
        s.modules[(1 : UInt64)]?.any fun record =>
          (buildHealthReport {} 5 1 s record).metrics.any fun row => row.state = .ok ∧
            selectThreshold (liveThresholds s) row.metric row.lane =
              some (lenientStored s₀)) = true := by decide +kernel
  obtain ⟨s₀, reached, runs⟩ := Run.exists_ofActions runs
  obtain ⟨s, published, runs⟩ := (Option.any_eq_true _ _).1 runs
  obtain ⟨record, found, runs⟩ := (Option.any_eq_true _ _).1 runs
  obtain ⟨row, member, checked⟩ := List.any_eq_true.1 runs
  obtain ⟨state, selected⟩ := of_decide_eq_true checked
  have last : PublishedLast {} 1 row.metric row.lane (lenientStored s₀) s₀ s :=
    ⟨reached, host, lenientPolicy, .autoRetry, stillClock, s, published, rfl, .start⟩
  exact ⟨s₀, s, record, row, found, member, state, last,
    published_policy_governs_iff found member selected last⟩

/-- A zone that was latched under an earlier policy is shown although the fresh value is nominal
under the published one (source `build_health_report`, the latch). -/
theorem earlier_policy_overrules :
    ∃ s₀ s record row, s.modules[(1 : UInt64)]? = some record ∧
      row ∈ (buildHealthReport {} 5 1 s record).metrics ∧
      selectThreshold (liveThresholds s) row.metric row.lane = some (lenientStored s₀) ∧
      PublishedLast {} 1 row.metric row.lane (lenientStored s₀) s₀ s ∧ row.state = .degraded ∧
      ¬ GovernedBy (lenientStored s₀)
        (freshValues {} 5 s record row.metric row.lane (lenientStored s₀)) row.state := by
  have runs : (runActions (step {}) [registerHost, registerBay bayA .ensureCurrent,
      publishPolicy 1, warmReading 75] State.initial).any (fun s₀ =>
        (step {} s₀ publishLenient).any fun s => s.modules[(1 : UInt64)]?.any fun record =>
          (buildHealthReport {} 5 1 s record).metrics.any fun row => row.state = .degraded ∧
            selectThreshold (liveThresholds s) row.metric row.lane = some (lenientStored s₀) ∧
            ∀ value ∈ freshValues {} 5 s record row.metric row.lane (lenientStored s₀),
              (lenientStored s₀).Nominal value) = true := by decide +kernel
  obtain ⟨s₀, reached, runs⟩ := Run.exists_ofActions runs
  obtain ⟨s, published, runs⟩ := (Option.any_eq_true _ _).1 runs
  obtain ⟨record, found, runs⟩ := (Option.any_eq_true _ _).1 runs
  obtain ⟨row, member, checked⟩ := List.any_eq_true.1 runs
  obtain ⟨state, selected, nominal⟩ := of_decide_eq_true checked
  have last : PublishedLast {} 1 row.metric row.lane (lenientStored s₀) s₀ s :=
    ⟨reached, host, lenientPolicy, .autoRetry, stillClock, s, published, rfl, .start⟩
  exact ⟨s₀, s, record, row, found, member, selected, last, state,
    fun governed => (governed.1 nominal).1 state⟩

end TransceiverRegistry
