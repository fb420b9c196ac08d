import TransceiverRegistry.Registry.Inspection
import TransceiverRegistry.Registry.Staleness
import TransceiverRegistry.Snapshot.Reload

/-!
# Ages in 64 bits

Three places subtract the time of a sample from the clock in 64-bit arithmetic: the classification
of a series, the revalidation of the latches of a snapshot and the evidence summary. An ingestion
bounds the time of a sample from above only, so the difference may wrap; it is the age exactly when
it fits. A wrapped difference is negative, and the sample then counts as fresh.
-/

namespace TransceiverRegistry

open Lib

/-- The age of a sample as the machine computes it, the difference wraps (source `classify_series`,
`revalidate_evidence` and `Registry::evidence_summary`, `age`). -/
def machineAge (nowWallNs : WallNs) (sample : HealthSample) : Int64 :=
  if sample.observedAtWallNs < nowWallNs then nowWallNs - sample.observedAtWallNs else 0

/-- Judge a series with the ages of the machine (source `classify_series`). -/
def classifySeries64 (samples : List HealthSample) (threshold : Option HealthThreshold)
    (uid : ModuleUid) (incarnation : IncarnationId) (nowWallNs : WallNs) (maxFutureSkewNs : Int64) :
    SeriesClassification :=
  classifySeriesBy (fun sample => nowWallNs.toInt + maxFutureSkewNs.toInt < sample.wall)
    (fun sample => (machineAge nowWallNs sample).toInt) samples threshold uid incarnation

/-- The evidence of a latch still describes the present, by the ages of the machine
(source `revalidate_evidence`). -/
def latchHolds64 (s : State) (now : WallNs) (record : ModuleRecord) (latch : HealthLatchRecord) :
    Bool :=
  match selectThreshold (liveThresholds s) latch.metric latch.lane,
    newestReading s record latch with
  | some threshold, some newest =>
    newest.presence = .present ∧ machineAge now newest ≤ threshold.maxAgeNs
  | _, _ => false

/-- A live sample is counted as stale, by the ages of the machine
(source `Registry::evidence_summary`, `stale_samples`). -/
def summaryStale64 (s : State) (now : WallNs) (sample : HealthSample) : Bool :=
  match selectThreshold (liveThresholds s) sample.metric sample.lane with
  | some threshold => threshold.maxAgeNs < machineAge now sample
  | none => true

/-- The age of a sample is the true one, and a sample whose true age exceeds the bound of a policy
counts as fresh nowhere: it is not fresh in the classification of a series, it does not hold a
latch, and the summary counts it as stale. -/
structure AgeExact (now : WallNs) (sample : HealthSample) : Prop where
  age : (machineAge now sample).toInt = sampleAge now sample
  series : ∀ (samples : List HealthSample) (threshold : HealthThreshold) (uid : ModuleUid)
    (incarnation : IncarnationId) (skew : Int64) (source : SourceId),
    IsNewest (HealthSample.countsFor uid incarnation source) HealthSample.wall samples sample →
    threshold.maxAgeNs.toInt < sampleAge now sample →
    source ∉ freshSourcesBy (fun sample => now.toInt + skew.toInt < sample.wall)
      (fun sample => (machineAge now sample).toInt) samples (some threshold) uid incarnation
  latch : ∀ (s : State) (record : ModuleRecord) (latch : HealthLatchRecord)
    (threshold : HealthThreshold),
    selectThreshold (liveThresholds s) latch.metric latch.lane = some threshold →
    newestReading s record latch = some sample →
    threshold.maxAgeNs.toInt < sampleAge now sample → latchHolds64 s now record latch = false
  summary : ∀ (s : State) (threshold : HealthThreshold),
    selectThreshold (liveThresholds s) sample.metric sample.lane = some threshold →
    threshold.maxAgeNs.toInt < sampleAge now sample → summaryStale64 s now sample = true

variable {now : WallNs} {sample : HealthSample}

/-- The difference of two times is exact when it fits the machine. -/
lemma toInt_sub_of_lt {a b : Int64} (le : b.toInt ≤ a.toInt) (fits : a.toInt - b.toInt < 2 ^ 63) :
    (a - b).toInt = a.toInt - b.toInt := by
  rw [Int64.toInt_sub, Int.bmod_eq_of_le]
  · omega
  · omega

/-- The age of the machine is the true one exactly when the difference fits 64 bits
(source `classify_series`, `age`). -/
lemma machineAge_eq_iff : (machineAge now sample).toInt = sampleAge now sample ↔
    now.toInt - sample.wall < 2 ^ 63 := by
  unfold machineAge sampleAge HealthSample.wall
  by_cases past : sample.observedAtWallNs < now
  · rw [if_pos past, if_pos past]
    constructor
    · intro same
      rw [← same]
      exact (now - sample.observedAtWallNs).toInt_lt
    · exact toInt_sub_of_lt (Int64.lt_iff_toInt_lt.1 past).le
  · rw [if_neg past, if_neg past]
    have later : now.toInt ≤ sample.observedAtWallNs.toInt := by
      rw [Int64.lt_iff_toInt_lt] at past
      exact Int.not_lt.1 past
    refine iff_of_true rfl ?_
    omega

/-- The age of a sample is the true one, and a sample that is too old counts as fresh nowhere,
exactly when the difference of the clock and the time of the sample fits 64 bits
(source `classify_series`, `revalidate_evidence`, `Registry::evidence_summary`). -/
theorem age_exact_iff : AgeExact now sample ↔ now.toInt - sample.wall < 2 ^ 63 := by
  constructor
  · intro exact
    exact machineAge_eq_iff.1 exact.age
  · intro fits
    have age := machineAge_eq_iff.2 fits
    refine ⟨age, ?_, ?_, ?_⟩
    · intro samples threshold uid incarnation skew source newest old fresh
      obtain ⟨⟨source', sample'⟩, kept, rfl⟩ := List.mem_map.1 fresh
      obtain ⟨member, fresh⟩ := List.mem_filter.1 kept
      obtain rfl := newest.unique (mem_foldl_scanSample.1 member)
      simp only [isFreshBy, Bool.and_eq_true, decide_eq_true_eq, age] at fresh
      exact absurd old (Int.not_lt.2 fresh.2)
    · intro s record latch threshold selected newest old
      have tooOld : ¬ machineAge now sample ≤ threshold.maxAgeNs := by
        rw [Int64.le_iff_toInt_le, age]
        exact Int.not_le.2 old
      simp [latchHolds64, selected, newest, tooOld]
    · intro s threshold selected old
      have tooOld : threshold.maxAgeNs < machineAge now sample := by
        rw [Int64.lt_iff_toInt_lt, age]
        exact old
      simp [summaryStale64, selected, tooOld]

/-- The newest measurement without policy is one of the samples kept (source `newest_present`). -/
lemma mem_newestPresent {newest : NewestBySource} {sample : HealthSample}
    (found : newestPresent newest = some sample) : ∃ source, (source, sample) ∈ newest := by
  have kept : ∀ sample, newestPresent newest = some sample → ∃ source, (source, sample) ∈ newest := by
    refine List.foldlRecOn newest _ (motive := fun best => ∀ sample, best = some sample →
      ∃ source, (source, sample) ∈ newest) (by simp) ?_
    intro best before entry member sample found
    split at found
    · exact before sample found
    · split at found
      · cases found
        exact ⟨entry.1, member⟩
      · split at found
        · cases found
          exact ⟨entry.1, member⟩
        · exact before sample found
  exact kept sample found

/-- A series is judged by the ages of its samples (source `classify_series`). -/
lemma classifySeriesBy_congr {late : HealthSample → Prop} [DecidablePred late]
    {age age' : HealthSample → Int} {samples : List HealthSample}
    (same : ∀ sample ∈ samples, age sample = age' sample) (threshold : Option HealthThreshold)
    (uid : ModuleUid) (incarnation : IncarnationId) :
    classifySeriesBy late age samples threshold uid incarnation =
      classifySeriesBy late age' samples threshold uid incarnation := by
  have kept (entry : SourceId × HealthSample)
      (member : entry ∈ (samples.foldl (scanSample uid incarnation) ([], 0)).1) :
      age entry.2 = age' entry.2 := same _ (mem_foldl_scanSample.1 member).mem
  have scanned (maxAgeNs : WallNs) :
      (samples.foldl (scanSample uid incarnation) ([], 0)).1.foldl
        (fun scan entry => scanFreshBy late age maxAgeNs scan entry.2) {} =
      (samples.foldl (scanSample uid incarnation) ([], 0)).1.foldl
        (fun scan entry => scanFreshBy late age' maxAgeNs scan entry.2) {} := by
    refine List.foldl_ext _ _ _ fun scan entry member => ?_
    simp only [scanFreshBy, kept entry member]
  unfold classifySeriesBy
  cases threshold with
  | none =>
    dsimp only
    split
    · rfl
    · split
      · rfl
      · rename_i sample found
        obtain ⟨source, member⟩ := mem_newestPresent found
        rw [kept _ member]
  | some t => simp only [scanned]

/-- When every age fits 64 bits, the machine judges a series as the exact ages do
(source `classify_series`). -/
theorem classifySeries64_eq {samples : List HealthSample} (threshold : Option HealthThreshold)
    (uid : ModuleUid) (incarnation : IncarnationId) (skew : Int64)
    (fits : ∀ sample ∈ samples, now.toInt - sample.wall < 2 ^ 63) :
    classifySeries64 samples threshold uid incarnation now skew =
      classifySeries samples threshold uid incarnation now skew :=
  classifySeriesBy_congr (fun sample member => machineAge_eq_iff.2 (fits sample member)) threshold
    uid incarnation

/-- Take the temperature of the module `A` at a time. -/
def readingAt (observed : WallNs) : Call :=
  Operation.now (.ingestHealth host ⟨1, 1, 0, bayA⟩
    ⟨.temperatureCelsius, kModuleLane, .present, .ofInt 1, observed, 1, 1, hostEvidence⟩ .autoRetry)

/-- A sample of the earliest time is accepted, and its age at the next reading of the clock wraps
(source `Registry::ingest_health`, the check of the future skew). -/
theorem earliest_sample_wraps :
    ¬ ∀ (config : RegistryConfig) (s : State) (uid : ModuleUid) (record : ModuleRecord)
      (sample : HealthSample) (now : WallNs), Run (step config) Unguarded State.initial s →
      s.modules[uid]? = some record → sample ∈ record.samples →
      0 ≤ now.toInt → now.toInt ≤ 2 ^ 62 → AgeExact now sample := by
  intro h
  have stored : (runActions (step {}) [registerHost, registerBay bayA .ensureCurrent,
      readingAt Int64.minValue] State.initial).any (fun s =>
        s.modules[(1 : UInt64)]?.any fun record => record.samples.any fun sample =>
          sample.observedAtWallNs = Int64.minValue) = true := by decide +kernel
  obtain ⟨s, reached, shows⟩ := Run.exists_ofActions stored
  simp only [Option.any_eq_true, List.any_eq_true] at shows
  obtain ⟨record, found, sample, member, earliest⟩ := shows
  have earliest : sample.observedAtWallNs = Int64.minValue := of_decide_eq_true earliest
  have exact := h {} s 1 record sample 2 reached found member (by decide) (by decide)
  have fits := age_exact_iff.1 exact
  rw [HealthSample.wall, earliest] at fits
  exact absurd fits (by decide)

end TransceiverRegistry
