import TransceiverRegistry.Registry.Bounds
import TransceiverRegistry.Registry.Budget
import TransceiverRegistry.Registry.Inspection
import TransceiverRegistry.Registry.Samples

/-!
# What the evidence summary counts

The summary counts claims and declarations by whether they are marked live, and sorts the samples
into three kinds: live ones, those of a fenced incarnation, and those of a retired source epoch. The
last kind is counted with the superseded declarations, so the summary is the partition it looks like
exactly when there is no sample of that kind.
-/

namespace TransceiverRegistry

open Lib

/-- A sample of the current incarnation under the current epoch of its source
(source `HealthSample::live`). -/
def describesPresent (s : State) (record : ModuleRecord) (sample : HealthSample) : Bool :=
  sample.incarnation = record.incarnation && sourceIsLive s sample.source sample.sourceEpoch

/-- A sample of the current incarnation under a retired epoch of its source
(source `Registry::evidence_summary`, the second branch of the loop). -/
def describesRetired (s : State) (record : ModuleRecord) (sample : HealthSample) : Bool :=
  sample.incarnation = record.incarnation && !sourceIsLive s sample.source sample.sourceEpoch

/-- A summary partitions the evidence about the current incarnation (source `EvidenceSummary`). -/
structure Partitions (s : State) (record : ModuleRecord) (summary : EvidenceSummary) : Prop where
  claims : summary.liveClaims.toNat + summary.supersededClaims.toNat =
    record.claims.countP (·.incarnation = record.incarnation)
  declarations : summary.liveDeclarations.toNat + summary.supersededDeclarations.toNat =
    record.declarations.countP (·.incarnation = record.incarnation)
  live : summary.liveSamples.toNat = record.samples.countP (describesPresent s record)
  stale : summary.staleSamples ≤ summary.liveSamples
  fenced : summary.fencedSamples.toNat =
    record.samples.countP fun sample => !describesPresent s record sample

/-- What a part of the samples adds to a summary (source `Registry::evidence_summary`, the loop over
the samples). -/
structure SampleTally (s : State) (record : ModuleRecord) (part : List HealthSample)
    (before after : EvidenceSummary) : Prop where
  claims : after.liveClaims = before.liveClaims ∧ after.supersededClaims = before.supersededClaims
  declarations : after.liveDeclarations = before.liveDeclarations
  retired : after.supersededDeclarations =
    before.supersededDeclarations + UInt64.ofNat (part.countP (describesRetired s record))
  live : after.liveSamples =
    before.liveSamples + UInt64.ofNat (part.countP (describesPresent s record))
  stale : ∃ k ≤ part.countP (describesPresent s record),
    after.staleSamples = before.staleSamples + UInt64.ofNat k
  fenced : after.fencedSamples =
    before.fencedSamples + UInt64.ofNat (part.countP (·.incarnation ≠ record.incarnation))

variable {clock : Clock} {s : State} {record : ModuleRecord} {part : List HealthSample}
  {before between after summary : EvidenceSummary}

/-- No sample adds nothing. -/
lemma SampleTally.nil : SampleTally s record [] summary summary where
  claims := ⟨rfl, rfl⟩
  declarations := rfl
  retired := (UInt64.add_zero _).symm
  live := (UInt64.add_zero _).symm
  stale := ⟨0, Nat.le_refl _, (UInt64.add_zero _).symm⟩
  fenced := (UInt64.add_zero _).symm

/-- Counters add up. -/
lemma add_ofNat_add (c : UInt64) (m n : Nat) :
    c + UInt64.ofNat m + UInt64.ofNat n = c + UInt64.ofNat (m + n) := by
  rw [UInt64.ofNat_add, UInt64.add_assoc]

/-- A counter that a condition advances grows by at most one. -/
lemma exists_le_one_add (c : Prop) [Decidable c] (n : UInt64) :
    ∃ k ≤ 1, (if c then n + 1 else n) = n + UInt64.ofNat k := by
  split
  · exact ⟨1, Nat.le_refl _, rfl⟩
  · exact ⟨0, Nat.zero_le _, (UInt64.add_zero _).symm⟩

/-- The parts of a list are counted one after the other. -/
lemma SampleTally.append {front back : List HealthSample} (first : SampleTally s record front before between)
    (second : SampleTally s record back between after) :
    SampleTally s record (front ++ back) before after where
  claims := ⟨second.claims.1.trans first.claims.1, second.claims.2.trans first.claims.2⟩
  declarations := second.declarations.trans first.declarations
  retired := by rw [second.retired, first.retired, add_ofNat_add, List.countP_append]
  live := by rw [second.live, first.live, add_ofNat_add, List.countP_append]
  stale := by
    obtain ⟨m, few, stale⟩ := first.stale
    obtain ⟨n, few', stale'⟩ := second.stale
    refine ⟨m + n, ?_, by rw [stale', stale, add_ofNat_add]⟩
    rw [List.countP_append]
    exact Nat.add_le_add few few'
  fenced := by rw [second.fenced, first.fenced, add_ofNat_add, List.countP_append]

/-- What one sample adds to a summary (source `Registry::evidence_summary`, one round of the loop). -/
lemma sampleTally_addSample (sample : HealthSample) :
    SampleTally s record [sample] summary (summary.addSample clock s record sample) := by
  unfold EvidenceSummary.addSample
  by_cases fenced : sample.incarnation = record.incarnation
  · rw [if_neg (not_not.2 fenced)]
    cases known : sourceIsLive s sample.source sample.sourceEpoch with
    | false =>
      rw [if_pos rfl]
      constructor <;> simp [describesRetired, describesPresent, fenced, known]
    | true =>
      rw [if_neg (by decide)]
      have present : [sample].countP (describesPresent s record) = 1 := by
        simp [describesPresent, fenced, known]
      have retired : [sample].countP (describesRetired s record) = 0 := by
        simp [describesRetired, known]
      have other : [sample].countP (·.incarnation ≠ record.incarnation) = 0 := by
        simp [fenced]
      refine ⟨⟨rfl, rfl⟩, rfl, ?_, ?_, ?_, ?_⟩
      · rw [retired]
        exact (UInt64.add_zero _).symm
      · rw [present]
        rfl
      · rw [present]
        exact exists_le_one_add _ _
      · rw [other]
        exact (UInt64.add_zero _).symm
  · rw [if_pos fenced]
    constructor <;> simp [describesRetired, describesPresent, fenced]

/-- What the samples add to a summary (source `Registry::evidence_summary`, the loop over the
samples). -/
lemma sampleTally_foldl (part : List HealthSample) (summary : EvidenceSummary) :
    SampleTally s record part summary
      (part.foldl (EvidenceSummary.addSample clock s record) summary) := by
  induction part generalizing summary with
  | nil => exact .nil
  | cons sample rest ih => exact (sampleTally_addSample sample).append (ih _)

/-- The elements that pass a test and the other ones are all elements. -/
lemma countP_add_countP_not {α : Type} (p : α → Bool) (l : List α) :
    l.countP p + l.countP (!p ·) = l.length := by
  rw [l.length_eq_countP_add_countP p]
  simp only [Bool.not_eq_true, Bool.decide_eq_false]

/-- The live claims and the other ones are the claims about the incarnation (source
`live_claims`). -/
lemma countP_liveClaims (s : State) (record : ModuleRecord) :
    (liveClaims s record record.incarnation).countP (·.live) +
      (liveClaims s record record.incarnation).countP (!·.live) =
      record.claims.countP (·.incarnation = record.incarnation) := by
  rw [countP_add_countP_not, liveClaims, List.length_map, List.countP_eq_length_filter]

/-- The live declarations and the other ones are the declarations about the incarnation (source
`live_declarations`). -/
lemma countP_liveDeclarations (s : State) (record : ModuleRecord) :
    (liveDeclarations s record record.incarnation).countP (·.live) +
      (liveDeclarations s record record.incarnation).countP (!·.live) =
      record.declarations.countP (·.incarnation = record.incarnation) := by
  rw [countP_add_countP_not, liveDeclarations, List.length_map,
    List.countP_eq_length_filter]

/-- A sample that is not live is of another incarnation or of a retired epoch
(source `Registry::evidence_summary`, the branches of the loop). -/
lemma countP_not_present (s : State) (record : ModuleRecord) (l : List HealthSample) :
    l.countP (fun sample => !describesPresent s record sample) =
      l.countP (·.incarnation ≠ record.incarnation) + l.countP (describesRetired s record) := by
  induction l with
  | nil => rfl
  | cons sample rest ih =>
    have one : (if (!describesPresent s record sample) = true then 1 else 0) =
        (if decide (sample.incarnation ≠ record.incarnation) = true then 1 else 0) +
          if describesRetired s record sample = true then 1 else 0 := by
      by_cases fenced : sample.incarnation = record.incarnation
      · simp [describesPresent, describesRetired, fenced]
      · simp [describesPresent, describesRetired, fenced]
    rw [List.countP_cons, List.countP_cons, List.countP_cons, ih, one]
    omega

/-- Nothing is of a retired epoch exactly when every sample of the incarnation is live
(source `source_is_live`). -/
lemma countP_describesRetired_eq_zero :
    record.samples.countP (describesRetired s record) = 0 ↔
      ∀ sample ∈ record.samples, sample.incarnation = record.incarnation →
        sourceIsLive s sample.source sample.sourceEpoch = true := by
  rw [List.countP_eq_zero]
  refine forall_congr' fun sample => imp_congr_right fun _ => ?_
  simp [describesRetired]

/-- What a summary counts (source `Registry::evidence_summary`). -/
structure Counts (s : State) (record : ModuleRecord) (summary : EvidenceSummary) : Prop where
  claimsLive : summary.liveClaims =
    UInt64.ofNat ((liveClaims s record record.incarnation).countP (·.live))
  claimsSuperseded : summary.supersededClaims =
    UInt64.ofNat ((liveClaims s record record.incarnation).countP (!·.live))
  declarationsLive : summary.liveDeclarations =
    UInt64.ofNat ((liveDeclarations s record record.incarnation).countP (·.live))
  declarationsSuperseded : summary.supersededDeclarations =
    UInt64.ofNat ((liveDeclarations s record record.incarnation).countP (!·.live) +
      record.samples.countP (describesRetired s record))
  samplesLive : summary.liveSamples =
    UInt64.ofNat (record.samples.countP (describesPresent s record))
  samplesStale : ∃ k ≤ record.samples.countP (describesPresent s record),
    summary.staleSamples = UInt64.ofNat k
  samplesFenced : summary.fencedSamples =
    UInt64.ofNat (record.samples.countP (·.incarnation ≠ record.incarnation))

/-- A summary is taken of the current incarnation and counts its evidence
(source `Registry::evidence_summary`). -/
lemma evidenceSummary_inv {module : ModuleHandle}
    (ran : evidenceSummary clock s module = .ok summary) :
    ∃ record, s.modules[module.uid]? = some record ∧ record.incarnation = module.incarnation ∧
      Counts s record summary := by
  simp only [evidenceSummary, queriedModule, bind_eq_ok, orRefuse_eq_ok, refuseIf_eq_ok,
    incarnationIsCurrent, decide_eq_false_iff_not, not_not] at ran
  obtain ⟨record, ⟨_, found, _, current, e⟩, ran⟩ := ran
  cases e
  obtain ⟨before, ⟨h1, h2, h3, h4, h5, h6, h7⟩, digest, shape⟩ : ∃ before : EvidenceSummary,
      (before.liveClaims =
          UInt64.ofNat ((liveClaims s record record.incarnation).countP (·.live)) ∧
        before.supersededClaims =
          UInt64.ofNat ((liveClaims s record record.incarnation).countP (!·.live)) ∧
        before.liveDeclarations =
          UInt64.ofNat ((liveDeclarations s record record.incarnation).countP (·.live)) ∧
        before.supersededDeclarations =
          UInt64.ofNat ((liveDeclarations s record record.incarnation).countP (!·.live)) ∧
        before.liveSamples = 0 ∧ before.staleSamples = 0 ∧ before.fencedSamples = 0) ∧
      ∃ digest, summary = { record.samples.foldl (EvidenceSummary.addSample clock s record)
        before with digest } :=
    ⟨_, ⟨rfl, rfl, rfl, rfl, rfl, rfl, rfl⟩, _, (Except.ok.inj ran).symm⟩
  obtain ⟨claims, declarations, retired, live, ⟨k, few, stale⟩, fenced⟩ :=
    @sampleTally_foldl clock s record record.samples before
  rw [h5, UInt64.zero_add] at live
  rw [h6, UInt64.zero_add] at stale
  rw [h7, UInt64.zero_add] at fenced
  rw [h4, ← UInt64.ofNat_add] at retired
  subst shape
  exact ⟨record, found, current, claims.1.trans h1, claims.2.trans h2, declarations.trans h3,
    retired, live, ⟨k, few, stale⟩, fenced⟩

/-- A module within its budgets is counted exactly. -/
lemma Counts.partitions_iff {config : RegistryConfig} (counts : Counts s record summary)
    (bounds : ModuleBounds config record) :
    Partitions s record summary ↔ record.samples.countP (describesRetired s record) = 0 := by
  obtain ⟨claims, declarations, samples⟩ := bounds
  have claimParts := countP_liveClaims s record
  have declarationParts := countP_liveDeclarations s record
  have sampleParts := countP_not_present s record record.samples
  have present := List.countP_le_length (p := describesPresent s record) (l := record.samples)
  have absent := List.countP_le_length (p := fun sample => !describesPresent s record sample)
    (l := record.samples)
  have someClaims := List.countP_le_length (p := (·.incarnation = record.incarnation))
    (l := record.claims)
  have someDeclarations := List.countP_le_length (p := (·.incarnation = record.incarnation))
    (l := record.declarations)
  have budgets := And.intro config.maxClaimsPerModule.toNat_lt
    (And.intro config.maxDeclarationsPerModule.toNat_lt config.maxSamplesPerModule.toNat_lt)
  -- each counter stays far below the range of the machine integers
  have exact {n : Nat} (small : n < 2 ^ 33) : (UInt64.ofNat n).toNat = n :=
    UInt64.toNat_ofNat_of_lt' (by simp only [UInt64.size]; omega)
  obtain ⟨k, few, stale⟩ := counts.samplesStale
  constructor
  · intro parts
    have whole := parts.declarations
    rw [counts.declarationsLive, counts.declarationsSuperseded, exact (by omega),
      exact (by omega)] at whole
    omega
  · intro none
    constructor
    · rw [counts.claimsLive, counts.claimsSuperseded, exact (by omega), exact (by omega)]
      exact claimParts
    · rw [counts.declarationsLive, counts.declarationsSuperseded, none, exact (by omega),
        exact (by omega)]
      exact declarationParts
    · rw [counts.samplesLive, exact (by omega)]
    · rw [UInt64.le_iff_toNat_le, stale, counts.samplesLive, exact (by omega), exact (by omega)]
      exact few
    · rw [counts.samplesFenced, exact (by omega), sampleParts, none, Nat.add_zero]

/-- In every reachable state, the evidence summary of a module partitions the evidence about its
current incarnation exactly when no stored sample of that incarnation is of a retired epoch of its
source (source `Registry::evidence_summary`). -/
theorem summary_partitions_iff [StdSort] {config : RegistryConfig} {module : ModuleHandle}
    (reached : Run (step config) Unguarded State.initial s)
    (ran : evidenceSummary clock s module = .ok summary) :
    ∃ record, s.modules[module.uid]? = some record ∧ record.incarnation = module.incarnation ∧
      (Partitions s record summary ↔
        ∀ sample ∈ record.samples, sample.incarnation = record.incarnation →
          sourceIsLive s sample.source sample.sourceEpoch = true) := by
  obtain ⟨record, found, current, counts⟩ := evidenceSummary_inv ran
  have bounds : ModuleBounds config record := (Bounded.run reached).modules _ _ found
  refine ⟨record, found, current, ?_⟩
  rw [counts.partitions_iff bounds, countP_describesRetired_eq_zero]

/-- A reading of the temperature of the module `A`, taken under the first epoch of the source. -/
def warmed : List Call :=
  [registerHost, registerBay bayA .ensureCurrent, reading .temperatureCelsius 1 1]

/-- A sample under the current epoch is counted once, as a live one. -/
theorem summary_partitions_iff_current : ∃ (s : State) (record : ModuleRecord)
    (summary : EvidenceSummary), evidenceSummary stillClock s firstA = .ok summary ∧ record.samples ≠ [] ∧
      Partitions s record summary := by
  have current : (runActions (step {}) warmed State.initial).any (fun s =>
      s.modules[(1 : UInt64)]?.any (fun record => record.samples.length = 1 &&
        record.samples.all fun sample => sourceIsLive s sample.source sample.sourceEpoch) &&
      (evidenceSummary stillClock s firstA).toOption.any fun summary =>
        summary.liveSamples = 1) = true := by
    decide +kernel
  obtain ⟨s, reached, shows⟩ := Run.exists_ofActions current
  simp only [Bool.and_eq_true, Option.any_eq_true] at shows
  obtain ⟨⟨record', found', one, live⟩, answered⟩ := shows
  obtain ⟨summary, ran, -⟩ := exists_ok_of_any ((Option.any_eq_true _ _).2 answered)
  obtain ⟨record, found, -, partitions⟩ := summary_partitions_iff reached ran
  obtain rfl : record = record' := Option.some.inj (found.symm.trans found')
  refine ⟨s, record, summary, ran, ?_, partitions.2 fun sample member _ => ?_⟩
  · rintro empty
    simp [empty] at one
  · exact List.all_eq_true.1 live sample member

/-- Once the source is registered again, its sample is counted with the superseded declarations of a
module that has no declaration (source `Registry::evidence_summary`, the second branch of the
loop). -/
theorem retired_sample_counted_as_declaration :
    ¬ ∀ (config : RegistryConfig) (clock : Clock) (s : State) (module : ModuleHandle)
      (record : ModuleRecord) (summary : EvidenceSummary),
      Run (step config) Unguarded State.initial s → s.modules[module.uid]? = some record →
      evidenceSummary clock s module = .ok summary → Partitions s record summary := by
  intro h
  have counted : (runActions (step {}) (warmed ++ [registerHost]) State.initial).any (fun s =>
      s.modules[(1 : UInt64)]?.any (fun record => record.declarations.isEmpty) &&
      (evidenceSummary stillClock s firstA).toOption.any fun summary =>
        summary.supersededDeclarations = 1) = true := by decide +kernel
  obtain ⟨s, reached, shows⟩ := Run.exists_ofActions counted
  simp only [Bool.and_eq_true, Option.any_eq_true] at shows
  obtain ⟨⟨record, found, empty⟩, answered⟩ := shows
  obtain ⟨summary, ran, one⟩ := exists_ok_of_any ((Option.any_eq_true _ _).2 answered)
  have parts := (h {} stillClock s firstA record summary reached found ran).declarations
  rw [List.isEmpty_iff.1 empty, List.countP_nil, of_decide_eq_true one] at parts
  exact absurd parts (by simp)

end TransceiverRegistry
