import TransceiverRegistry.Registry.Evidenced
import TransceiverRegistry.Registry.Published
import TransceiverRegistry.Registry.Staleness
import TransceiverRegistry.Snapshot.Reload

/-!
# Latches after a load

A load keeps a latch when the latest reading of its series, whatever its source, is a measurement
that is not too old. A query classifies the series by the last word of each source, and a reading
ahead of the clock is not fresh there. The two part when the latest reading is no measurement and
hides the fresh last word of a source, and when the latest reading is a measurement that is ahead of
the clock, or taken back by its source at the same time, and no source has a fresh last word.
-/

namespace TransceiverRegistry

open Lib

/-- What a query says about the series of a latch (source `build_health_report`, the loop). -/
def latchClassification (config : RegistryConfig) (now : WallNs) (s : State) (record : ModuleRecord)
    (latch : HealthLatchRecord) : SeriesClassification :=
  classifySeries (seriesOf s record latch.metric latch.lane)
    (selectThreshold (liveThresholds s) latch.metric latch.lane) record.uid record.incarnation now
    config.maxFutureSkewNs

/-- The load treats a latch as the query does: it stays when the series has a fresh value and is
reset when it has none (source `revalidate_evidence`). -/
def RevalidatesAsClassified (config : RegistryConfig) (now : WallNs) (s : State)
    (record : ModuleRecord) (latch latch' : HealthLatchRecord) : Prop :=
  latch' = if 0 < (latchClassification config now s record latch).fresh then latch
    else { latch with latch := HealthLatch.new }

/-- A stored sample is a reading of the series of a latch: it is about the current incarnation and
was recorded under the current epoch of its source. -/
def isReading (s : State) (record : ModuleRecord) (latch : HealthLatchRecord)
    (sample : HealthSample) : Bool :=
  (sample.metric = latch.metric && sample.lane = latch.lane) &&
  sample.incarnation = record.incarnation && sourceIsLive s sample.source sample.sourceEpoch

/-- The readings are stored as the registry stores them: flagged as live, and as samples of their
module. -/
def OwnReadings (s : State) (record : ModuleRecord) (latch : HealthLatchRecord) : Prop :=
  ∀ sample ∈ record.samples, isReading s record latch sample = true →
    sample.live = true ∧ sample.module = record.uid

/-- No reading is later, and none that is as late is stored before. -/
def LatestReading (s : State) (record : ModuleRecord) (latch : HealthLatchRecord)
    (sample : HealthSample) : Prop :=
  IsNewest (isReading s record latch) HealthSample.wall record.samples.reverse sample

/-- No reading of the same source is later, and none that is as late is stored after. -/
def LastWord (s : State) (record : ModuleRecord) (latch : HealthLatchRecord)
    (sample : HealthSample) : Prop :=
  IsNewest (liveSample s record latch.metric latch.lane sample.source) HealthSample.wall
    record.samples sample

/-- The stored readings of a latch do not part the load from a query: they are the registry's own, a
latest reading that is no measurement hides no usable last word, and a latest measurement that is
ahead of the clock, or not the last word of its source, comes with a usable last word. -/
structure ReadingsAgree (config : RegistryConfig) (now : WallNs) (s : State)
    (record : ModuleRecord) (latch : HealthLatchRecord) (threshold : HealthThreshold) : Prop where
  own : OwnReadings s record latch
  unhidden : ∀ latest word, LatestReading s record latch latest → latest.presence ≠ .present →
    LastWord s record latch word →
    word.usable threshold.maxAgeNs now config.maxFutureSkewNs = false
  accompanied : ∀ latest, LatestReading s record latch latest → latest.presence = .present →
    sampleAge now latest ≤ threshold.maxAgeNs.toInt →
    now.toInt + config.maxFutureSkewNs.toInt < latest.wall ∨ ¬ LastWord s record latch latest →
    ∃ word, LastWord s record latch word ∧
      word.usable threshold.maxAgeNs now config.maxFutureSkewNs = true

variable {config : RegistryConfig} {now : WallNs} {s : State} {record : ModuleRecord}
  {latch : HealthLatchRecord} {threshold : HealthThreshold} {sample : HealthSample}

/-- A sample that is fresh at a reading of the machine (source `classify_series`, the second
loop). -/
lemma isFreshBy_eq_usable (maxAgeNs : WallNs) (skew : Int64) (sample : HealthSample) :
    isFreshBy (fun sample => now.toInt + skew.toInt < sample.wall) (sampleAge now) maxAgeNs sample =
      sample.usable maxAgeNs now skew := by
  by_cases future : now.toInt + skew.toInt < sample.observedAtWallNs.toInt
  · simp [isFreshBy, HealthSample.usable, HealthSample.wall, future, Int.not_le.2 future]
  · simp [isFreshBy, HealthSample.usable, HealthSample.wall, future, Int.not_lt.1 future]

/-- A sample that a query counts for a source is a reading of its module (source
`build_health_report`, `marked`). -/
lemma liveSample_eq_isReading : liveSample s record latch.metric latch.lane sample.source sample =
    (isReading s record latch sample && sample.module = record.uid) := by
  rw [Bool.eq_iff_iff]
  simp only [liveSample, isReading, Bool.and_eq_true, decide_eq_true_eq]
  tauto

/-- The last word of a source is a reading. -/
lemma LastWord.reading (h : LastWord s record latch sample) :
    isReading s record latch sample = true := by
  have holds := h.holds
  rw [liveSample_eq_isReading, Bool.and_eq_true] at holds
  exact holds.1

/-- A query counts a fresh value exactly when a policy is selected and some source has a usable last
word (source `classify_series`). -/
lemma fresh_pos_iff : 0 < (latchClassification config now s record latch).fresh ↔
    ∃ threshold, selectThreshold (liveThresholds s) latch.metric latch.lane = some threshold ∧
      ∃ word, LastWord s record latch word ∧
        word.usable threshold.maxAgeNs now config.maxFutureSkewNs = true := by
  have fresh : (latchClassification config now s record latch).fresh = _ :=
    (@classifySeriesBy_spec
      (fun sample => now.toInt + config.maxFutureSkewNs.toInt < sample.wall) _ (sampleAge now)
      (seriesOf s record latch.metric latch.lane)
      (selectThreshold (liveThresholds s) latch.metric latch.lane) record.uid
      record.incarnation).1
  rw [fresh]
  cases selected : selectThreshold (liveThresholds s) latch.metric latch.lane with
  | none => simp [freshSourcesBy]
  | some threshold =>
    simp only [freshSourcesBy, List.length_map, isFreshBy_eq_usable, Option.some.injEq,
      exists_eq_left']
    rw [List.length_pos_iff_exists_mem]
    -- the sources that count are those whose last word is usable
    constructor
    · rintro ⟨⟨source, marked⟩, kept⟩
      obtain ⟨member, usable⟩ := List.mem_filter.1 kept
      obtain ⟨word, newest, rfl⟩ := mem_kept_iff.1 member
      obtain rfl : word.source = source := by
        have holds := newest.holds
        simp only [liveSample, Bool.and_eq_true, decide_eq_true_eq] at holds
        exact holds.1.2
      exact ⟨word, newest, usable⟩
    · rintro ⟨word, last, usable⟩
      exact ⟨(word.source, markSample s record word),
        List.mem_filter.2 ⟨mem_kept_iff.2 ⟨word, last, rfl⟩, usable⟩⟩

/-- The reading a load looks at is the latest one (source `revalidate_evidence`, the inner loop). -/
lemma newestReading_eq_some_iff (own : OwnReadings s record latch) :
    newestReading s record latch = some sample ↔ LatestReading s record latch sample := by
  rw [LatestReading, ← newest_eq_some_iff, ← foldl_newerFirst, newestReading]
  refine Eq.congr_left (List.foldl_ext _ _ _ fun best sample member => ?_)
  cases reading : isReading s record latch sample with
  | true =>
    have flagged := (own sample member reading).1
    simp only [isReading, Bool.and_eq_true, decide_eq_true_eq] at reading
    obtain ⟨⟨⟨ofMetric, ofLane⟩, current⟩, live⟩ := reading
    simp only [ofMetric, ofLane, current, live, flagged, newerFirst, isReading]
    cases best with
    | none => simp
    | some b =>
      have same : b.observedAtWallNs < sample.observedAtWallNs ↔ b.wall < sample.wall :=
        Int64.lt_iff_toInt_lt
      by_cases later : b.wall < sample.wall <;> simp [same, later]
  | false =>
    rw [newerFirst.eq_def, if_pos reading]
    by_cases other : sample.metric ≠ latch.metric ∨ sample.lane ≠ latch.lane
    · exact if_pos other
    by_cases fenced : sample.incarnation ≠ record.incarnation ∨ sample.live = false
    · rw [if_neg other, if_pos fenced]
    · rw [not_or, not_not, not_not] at other
      rw [not_or, not_not] at fenced
      have dead : sourceIsLive s sample.source sample.sourceEpoch = false := by
        simpa [isReading, other, fenced] using reading
      simp [other, fenced, dead]

/-- A load keeps a latch exactly when a policy is selected and the latest reading of the series is a
measurement that is not too old (source `revalidate_evidence`). -/
lemma latchHolds_iff (own : OwnReadings s record latch) : latchHolds s now record latch = true ↔
    ∃ threshold, selectThreshold (liveThresholds s) latch.metric latch.lane = some threshold ∧
      ∃ latest, LatestReading s record latch latest ∧ latest.presence = .present ∧
        sampleAge now latest ≤ threshold.maxAgeNs.toInt := by
  simp only [← newestReading_eq_some_iff own]
  unfold latchHolds
  cases selectThreshold (liveThresholds s) latch.metric latch.lane with
  | none => simp
  | some threshold =>
    cases newestReading s record latch with
    | none => simp
    | some newest => simp

/-- An earlier sample is older. -/
lemma sampleAge_anti {earlier later : HealthSample} (le : earlier.wall ≤ later.wall) :
    sampleAge now later ≤ sampleAge now earlier := by
  simp only [sampleAge, Int64.lt_iff_toInt_lt, HealthSample.wall] at le ⊢
  split <;> split <;> omega

/-- When the readings agree, a usable last word comes with a latest reading that is a measurement and
not too old. -/
lemma ReadingsAgree.latest (agree : ReadingsAgree config now s record latch threshold)
    {word : HealthSample} (last : LastWord s record latch word)
    (usable : word.usable threshold.maxAgeNs now config.maxFutureSkewNs = true) :
    ∃ latest, LatestReading s record latch latest ∧ latest.presence = .present ∧
      sampleAge now latest ≤ threshold.maxAgeNs.toInt := by
  have stored := List.mem_reverse.2 last.mem
  obtain ⟨_, none⟩ | ⟨latest, _, isLatest⟩ := newest_spec (isReading s record latch)
    HealthSample.wall record.samples.reverse
  · have reading := last.reading
    rw [none word stored] at reading
    cases reading
  · have measured : latest.presence = .present := by
      by_contra absent
      rw [agree.unhidden latest word isLatest absent last] at usable
      cases usable
    have young : sampleAge now word ≤ threshold.maxAgeNs.toInt := by
      simp only [HealthSample.usable, Bool.and_eq_true, decide_eq_true_eq] at usable
      exact usable.2
    exact ⟨latest, isLatest, measured,
      (sampleAge_anti (isLatest.le stored last.reading)).trans young⟩

/-- When the readings agree, a latest measurement that is not too old comes with a usable last word. -/
lemma ReadingsAgree.word (agree : ReadingsAgree config now s record latch threshold)
    {latest : HealthSample} (isLatest : LatestReading s record latch latest)
    (measured : latest.presence = .present)
    (young : sampleAge now latest ≤ threshold.maxAgeNs.toInt) :
    ∃ word, LastWord s record latch word ∧
      word.usable threshold.maxAgeNs now config.maxFutureSkewNs = true := by
  by_cases alone : now.toInt + config.maxFutureSkewNs.toInt < latest.wall ∨
      ¬ LastWord s record latch latest
  · exact agree.accompanied latest isLatest measured young alone
  · -- the latest reading is the last word of its source and fresh itself
    rw [not_or, not_not, Int.not_lt] at alone
    refine ⟨latest, alone.2, ?_⟩
    simp only [HealthSample.usable, Bool.and_eq_true, decide_eq_true_eq]
    exact ⟨⟨measured, alone.1⟩, young⟩

/-- A load keeps a latch whose readings agree just when a query counts a fresh value in its series
(source `revalidate_evidence`, `classify_series`). -/
lemma latchHolds_iff_fresh (agree : ∀ threshold,
      selectThreshold (liveThresholds s) latch.metric latch.lane = some threshold →
      ReadingsAgree config now s record latch threshold) :
    latchHolds s now record latch = true ↔
      0 < (latchClassification config now s record latch).fresh := by
  rw [fresh_pos_iff]
  cases selected : selectThreshold (liveThresholds s) latch.metric latch.lane with
  | none => simp [latchHolds, selected]
  | some threshold =>
    have agree := agree threshold selected
    rw [latchHolds_iff agree.own, selected]
    simp only [Option.some.injEq, exists_eq_left']
    constructor
    · rintro ⟨latest, isLatest, measured, young⟩
      exact agree.word isLatest measured young
    · rintro ⟨word, last, usable⟩
      exact agree.latest last usable

/-- The registry's own readings agree when a load keeps their latch just when a query counts a fresh
value in its series. -/
lemma ReadingsAgree.of_latchHolds_iff (own : OwnReadings s record latch)
    (same : latchHolds s now record latch = true ↔
      0 < (latchClassification config now s record latch).fresh)
    (selected : selectThreshold (liveThresholds s) latch.metric latch.lane = some threshold) :
    ReadingsAgree config now s record latch threshold := by
  rw [latchHolds_iff own, fresh_pos_iff, selected] at same
  simp only [Option.some.injEq, exists_eq_left'] at same
  refine ⟨own, fun latest word isLatest absent last => ?_,
    fun latest isLatest measured young _ => same.1 ⟨latest, isLatest, measured, young⟩⟩
  rw [Bool.eq_false_iff]
  intro usable
  obtain ⟨latest', isLatest', measured, _⟩ := same.2 ⟨word, last, usable⟩
  exact absent (isLatest.unique isLatest' ▸ measured)

/-- The samples of every module are stored as live ones of the module. -/
def SamplesOwn (s : State) : Prop :=
  ∀ (uid : ModuleUid) record, s.modules[uid]? = some record → ∀ sample ∈ record.samples,
    sample.live = true ∧ sample.module = uid

/-- In every run the samples are stored as live ones of their module (source
`Registry::ingest_health`, `stored`). -/
lemma samplesOwn_of_run [StdSort] (reached : Run (step config) Unguarded State.initial s) :
    SamplesOwn s := by
  refine coherent_invariant reached ?_ fun s call s' coherent own _ taken => ?_
  · intro uid record found
    rw [State.initial, Std.ExtTreeMap.getElem?_empty] at found
    cases found
  · intro uid record' found' sample member
    cases samplesStep_of_step coherent taken found' with
    | fresh _ samples _ =>
      rw [samples] at member
      cases member
    | stay found samples _ => exact own uid _ found sample (samples ▸ member)
    | ingest operation named found newer trims samples counts =>
      rw [samples, trims] at member
      obtain old | new := List.mem_append.1 ((trimSamples_sublist config _).subset member)
      · exact own uid _ found sample old
      · obtain rfl := List.mem_singleton.1 new
        exact ⟨rfl, coherent.modules.uid uid _ found⟩

/-- The latches of a module after a load (source `revalidate_evidence`). -/
lemma getElem?_revalidate (s : State) (now : WallNs) (record : ModuleRecord) (i : Nat) :
    (record.revalidate s now).latches[i]? = record.latches[i]?.map fun latch =>
      if latchHolds s now record latch then latch else { latch with latch := HealthLatch.new } :=
  List.getElem?_map

/-- The modules after a load (source `revalidate_evidence`). -/
lemma getElem?_revalidate_modules (now : WallNs) {uid : ModuleUid}
    (found : s.modules[uid]? = some record) :
    (revalidateEvidence s now).modules[uid]? = some (record.revalidate s now) := by
  have mapped : (s.modules.map fun _ record => record.revalidate s now)[uid]? =
      s.modules[uid]?.map (·.revalidate s now) := by simp
  rw [revalidateEvidence, mapped, found, Option.map_some]

/-- For every state that is loaded and every reading of the clock: the load treats a latch as a query
does when the latch is a new one anyway, or its readings agree; among the readings that are the
registry's own, as those of every state it reaches are, it does so in no other case (source
`revalidate_evidence`, `classify_series`). -/
theorem revalidation_agrees [StdSort] (config : RegistryConfig) (now : WallNs) (s : State)
    (uid : ModuleUid) (record : ModuleRecord) (found : s.modules[uid]? = some record) (i : Nat)
    (latch : HealthLatchRecord) (held : record.latches[i]? = some latch) :
    ∃ record' latch', (revalidateEvidence s now).modules[uid]? = some record' ∧
      record'.latches[i]? = some latch' ∧
      ((latch.latch = HealthLatch.new ∨
          ∀ threshold, selectThreshold (liveThresholds s) latch.metric latch.lane = some threshold →
            ReadingsAgree config now s record latch threshold) →
        RevalidatesAsClassified config now s record latch latch') ∧
      (OwnReadings s record latch → RevalidatesAsClassified config now s record latch latch' →
        latch.latch = HealthLatch.new ∨
        ∀ threshold, selectThreshold (liveThresholds s) latch.metric latch.lane = some threshold →
          ReadingsAgree config now s record latch threshold) ∧
      (Run (step config) Unguarded State.initial s → OwnReadings s record latch) := by
  have revalidated := getElem?_revalidate_modules now found
  have kept := getElem?_revalidate s now record i
  rw [held, Option.map_some] at kept
  refine ⟨_, _, revalidated, kept, ?_, fun own treated => ?_, fun reached sample member _ => ?_⟩
  · rintro (new | agree)
    · have same : { latch with latch := HealthLatch.new } = latch := by rw [← new]
      rw [RevalidatesAsClassified, same, ite_self, ite_self]
    · simp only [RevalidatesAsClassified, latchHolds_iff_fresh agree]
  · -- a latch that is a new one already is kept and reset alike
    by_cases new : latch.latch = HealthLatch.new
    · exact .inl new
    · refine .inr fun threshold selected => .of_latchHolds_iff own ?_ selected
      have differ : latch ≠ { latch with latch := HealthLatch.new } := fun same =>
        new (congrArg HealthLatchRecord.latch same)
      rw [RevalidatesAsClassified] at treated
      split at treated <;> split at treated
      · exact iff_of_true ‹_› ‹_›
      · exact absurd treated differ
      · exact absurd treated.symm differ
      · exact iff_of_false ‹_› ‹_›
  · have keyed := (Coherent.run reached).modules.uid uid record found
    exact keyed ▸ samplesOwn_of_run reached uid record found sample member

/-- A module at 75 degrees under a policy, with a latch that is degraded. -/
def degradedCalls : List Call :=
  [registerHost, registerBay bayA .ensureCurrent, publishPolicy 1, warmReading 75]

/-- A second source. -/
def registerGuest : Call :=
  Operation.now (.registerSource ⟨text "guest", [], .synthetic, []⟩ .autoRetry)

/-- The second source reports later that it has no measurement. -/
def guestAbsent : Call :=
  Operation.now (.ingestHealth ⟨2, 1⟩ ⟨1, 1, 0, bayA⟩ ⟨.temperatureCelsius, kModuleLane,
    .notAvailable, .ofInt 0, 3, 1, 1, hostEvidence⟩ .autoRetry)

/-- A state has a degraded latch, which a load keeps or not, in a series that has a fresh value or
not. -/
def showsLatch (s : State) (now : WallNs) (holds fresh : Bool) : Bool :=
  s.modules[(1 : UInt64)]?.any fun record => record.latches[0]?.any fun latch =>
    latch.latch.state = .degraded && latchHolds s now record latch == holds &&
      decide (0 < (latchClassification {} now s record latch).fresh) == fresh

/-- The latch of a single fresh source is kept. -/
theorem revalidation_agrees_single : ∃ s record latch, s.modules[(1 : UInt64)]? = some record ∧
    record.latches[0]? = some latch ∧ latch.latch.state = .degraded ∧
    ∃ record' latch', (revalidateEvidence s 3).modules[(1 : UInt64)]? = some record' ∧
      record'.latches[0]? = some latch' ∧ RevalidatesAsClassified {} 3 s record latch latch' := by
  have kept : (runActions (step {}) degradedCalls State.initial).any
      (showsLatch · 3 true true) = true := by decide +kernel
  obtain ⟨s, reached, shows⟩ := Run.exists_ofActions kept
  simp only [showsLatch, Option.any_eq_true, Bool.and_eq_true, beq_true,
    decide_eq_true_eq] at shows
  obtain ⟨record, found, latch, held, ⟨degraded, holds⟩, fresh⟩ := shows
  obtain ⟨record', latch', found', held', agrees, -, own⟩ :=
    revalidation_agrees {} 3 s 1 record found 0 latch held
  refine ⟨s, record, latch, found, held, degraded, record', latch', found', held', ?_⟩
  exact agrees (.inr fun threshold selected =>
    .of_latchHolds_iff (own reached) (iff_of_true holds fresh) selected)

/-- When a second source reports later that it has no measurement, the load resets the latch although
the first source is still fresh (source `revalidate_evidence`, the search of the newest sample). -/
theorem absent_reading_resets_latch :
    ¬ ∀ (config : RegistryConfig) (now : WallNs) (s : State) (uid : ModuleUid)
      (record record' : ModuleRecord) (i : Nat) (latch latch' : HealthLatchRecord),
      Run (step config) Unguarded State.initial s → s.modules[uid]? = some record →
      record.latches[i]? = some latch → (revalidateEvidence s now).modules[uid]? = some record' →
      record'.latches[i]? = some latch' →
      RevalidatesAsClassified config now s record latch latch' := by
  intro h
  have reset : (runActions (step {}) (degradedCalls ++ [registerGuest, guestAbsent])
      State.initial).any (showsLatch · 3 false true) = true := by decide +kernel
  obtain ⟨s, reached, shows⟩ := Run.exists_ofActions reset
  simp only [showsLatch, Option.any_eq_true, Bool.and_eq_true, beq_true, beq_false,
    Bool.not_eq_true', decide_eq_true_eq] at shows
  obtain ⟨record, found, latch, held, ⟨degraded, discarded⟩, fresh⟩ := shows
  have revalidated := getElem?_revalidate_modules 3 found
  have dropped := getElem?_revalidate s 3 record 0
  rw [held, Option.map_some, discarded] at dropped
  have same := h {} 3 s 1 record _ 0 latch _ reached found held revalidated dropped
  rw [RevalidatesAsClassified, if_pos fresh] at same
  have states : HealthLatch.new.state = latch.latch.state :=
    congrArg (fun entry => entry.latch.state) same
  rw [degraded] at states
  exact absurd states (by decide)

end TransceiverRegistry
