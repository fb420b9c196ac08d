import TransceiverRegistry.Registry.Evidenced

/-!
# Classification and the clock

The classification of a series reads the clock in two places: it compares the time of a sample with
the reading, and it computes the age of a sample. Here both are parameters, so that one statement
covers the reading of a machine, its 64-bit arithmetic, and an unbounded clock. Without new evidence
a source can only stop being fresh.
-/

namespace TransceiverRegistry

open Lib

section Definitions

variable (late : HealthSample → Prop) [DecidablePred late] (age : HealthSample → Int)

/-- Judge the newest sample of one source by its lateness and its age (source `classify_series`, the
second loop). -/
def scanFreshBy (maxAgeNs : WallNs) (scan : FreshScan) (sample : HealthSample) : FreshScan :=
  match sample.presence with
  | .notAvailable =>
    { scan with presenceUnusableSources := scan.presenceUnusableSources + 1 }.note
      "the module reports the metric as not available" .notAvailable
  | .readError =>
    { scan with presenceUnusableSources := scan.presenceUnusableSources + 1 }.note
      "the last read of the metric failed" .readError
  | .notSupported =>
    { scan with presenceUnusableSources := scan.presenceUnusableSources + 1 }.note
      "the metric is not supported by this module" .notSupported
  | .present =>
    if late sample then
      { scan with
        futureSources := scan.futureSources + 1
        agedOutSources := scan.agedOutSources + 1 }.note
        "the observation timestamp is in the future" .futureTimestamp
    else
      if maxAgeNs.toInt < age sample then
        { scan with agedOutSources := scan.agedOutSources + 1 }.note
          "the newest sample is older than the freshness bound" .stale
      else
        { scan with
          freshValues := scan.freshValues ++ [sample.value]
          newestFresh := match scan.newestFresh with
            | none => some (sample, age sample)
            | some best =>
              if best.1.observedAtWallNs ≤ sample.observedAtWallNs then some (sample, age sample)
              else some best }

/-- Judge a series by the lateness and the age of its samples (source `classify_series`). -/
def classifySeriesBy (samples : List HealthSample) (threshold : Option HealthThreshold)
    (uid : ModuleUid) (incarnation : IncarnationId) : SeriesClassification :=
  let scan := samples.foldl (scanSample uid incarnation) ([], 0)
  let newest := scan.1
  let result : SeriesClassification := { fenced := scan.2, sources := newest.length }
  if newest = [] then
    if 0 < scan.2 then
      { result with
        state := .fenced, reasonKind := .fenced
        reason := text "every sample belongs to a fenced incarnation" }
    else { result with reason := text "no sample has been ingested for this metric" }
  else match threshold with
  | none =>
    match newestPresent newest with
    | none => { result with
        reasonKind := .notAvailable
        reason := text "no usable measurement is available and no threshold is published" }
    | some sample => { result with
        state := .unclassified, hasValue := true, value := sample.value, hasAge := true
        ageNs := age sample, reasonKind := .noThreshold
        reason := text "no threshold is published for this metric" }
  | some threshold =>
    let fresh := newest.foldl (fun scan entry => scanFreshBy late age threshold.maxAgeNs scan entry.2)
      {}
    let result := { result with
      fresh := fresh.freshValues.length
      stale := fresh.agedOutSources + fresh.presenceUnusableSources }
    match fresh.freshValues, fresh.newestFresh with
    | first :: rest, some (sample, age) =>
      let result := { result with
        hasValue := true, value := sample.value, hasAge := true, ageNs := age }
      if 1 < (first :: rest).length ∧
          threshold.disagreementTolerance.lt (spread first (first :: rest)) = true then
        { result with
          state := .conflicting, reasonKind := .sourceConflict
          reason := text "live sources disagree beyond the published tolerance" }
      else
        { result with
          state := classifyValue threshold sample.value
          reason := text "classified against the published threshold" }
    | _, _ =>
      if 0 < fresh.agedOutSources then
        { result with
          state := .stale
          reasonKind := if 0 < fresh.futureSources then .futureTimestamp else .stale
          reason := orReason fresh.unusableReason
            "the newest sample is older than the freshness bound" }
      else
        { result with
          reasonKind := fresh.unusableKind
          reason := orReason fresh.unusableReason "no usable measurement is available" }

/-- A measurement is fresh: it is not late and not too old (source `classify_series`, the second
loop). -/
def isFreshBy (maxAgeNs : WallNs) (sample : HealthSample) : Bool :=
  sample.presence = .present && !decide (late sample) && decide (age sample ≤ maxAgeNs.toInt)

/-- The sources that count as fresh (source `classify_series`, `result.fresh`). -/
def freshSourcesBy (samples : List HealthSample) (threshold : Option HealthThreshold)
    (uid : ModuleUid) (incarnation : IncarnationId) : List SourceId :=
  match threshold with
  | none => []
  | some threshold =>
    ((samples.foldl (scanSample uid incarnation) ([], 0)).1.filter fun entry =>
      isFreshBy late age threshold.maxAgeNs entry.2).map (·.1)

end Definitions

/-- The age of a sample at a reading of an unbounded clock, never negative. -/
def ageAt (now : Int) (sample : HealthSample) : Int :=
  if sample.wall < now then now - sample.wall else 0

/-- Judge a series at a reading of an unbounded clock (source `classify_series`). -/
def classifySeriesAt (now maxFutureSkewNs : Int) :
    List HealthSample → Option HealthThreshold → ModuleUid → IncarnationId → SeriesClassification :=
  classifySeriesBy (fun sample => now + maxFutureSkewNs < sample.wall) (ageAt now)

/-- The sources that count as fresh at a reading of an unbounded clock. -/
def freshSourcesAt (now maxFutureSkewNs : Int) :
    List HealthSample → Option HealthThreshold → ModuleUid → IncarnationId → List SourceId :=
  freshSourcesBy (fun sample => now + maxFutureSkewNs < sample.wall) (ageAt now)

variable {samples : List HealthSample} {threshold : Option HealthThreshold} {uid : ModuleUid}
  {incarnation : IncarnationId}

/-- The age of a sample is the one at the reading of an unbounded clock
(source `classify_series`, `age`). -/
lemma sampleAge_eq_ageAt (now : WallNs) : sampleAge now = ageAt now.toInt := by
  funext sample
  exact if_congr Int64.lt_iff_toInt_lt rfl rfl

/-- The classification at a reading of the machine is the one at a reading of an unbounded clock
(source `classify_series`). -/
theorem classifySeries_eq_at (now : WallNs) (skew : Int64) :
    classifySeries samples threshold uid incarnation now skew =
      classifySeriesAt now.toInt skew.toInt samples threshold uid incarnation := by
  rw [classifySeriesAt, ← sampleAge_eq_ageAt]
  rfl

section Judged

variable {late : HealthSample → Prop} [DecidablePred late] {age : HealthSample → Int}
  {maxAgeNs : WallNs}

/-- A note counts nothing. -/
lemma FreshScan.note_counts (scan : FreshScan) (reason : String) (kind : HealthIssueKind) :
    (scan.note reason kind).agedOutSources = scan.agedOutSources ∧
      (scan.note reason kind).newestFresh = scan.newestFresh := by
  unfold FreshScan.note
  split <;> exact ⟨rfl, rfl⟩

/-- What judging the samples of the sources has seen: the values of the fresh ones, whether there is
a fresh one, and how many measurements are not fresh (source `classify_series`, the second loop). -/
structure Judged (late : HealthSample → Prop) [DecidablePred late] (age : HealthSample → Int)
    (maxAgeNs : WallNs) (part : NewestBySource) (before after : FreshScan) : Prop where
  values : after.freshValues = before.freshValues ++
    ((part.filter fun entry => isFreshBy late age maxAgeNs entry.2).map fun entry => entry.2.value)
  newest : after.newestFresh.isSome = (before.newestFresh.isSome ||
    part.any fun entry => isFreshBy late age maxAgeNs entry.2)
  agedOut : after.agedOutSources = before.agedOutSources + part.countP fun entry =>
    entry.2.presence = .present && !isFreshBy late age maxAgeNs entry.2

/-- Judging one sample (source `classify_series`, one round of the second loop). -/
lemma judged_scanFreshBy (scan : FreshScan) (entry : SourceId × HealthSample) :
    Judged late age maxAgeNs [entry] scan (scanFreshBy late age maxAgeNs scan entry.2) := by
  obtain ⟨source, sample⟩ := entry
  unfold scanFreshBy
  cases presence : sample.presence with
  | notAvailable =>
    constructor <;> simp [isFreshBy, presence, FreshScan.note_counts]
  | readError =>
    constructor <;> simp [isFreshBy, presence, FreshScan.note_counts]
  | notSupported =>
    constructor <;> simp [isFreshBy, presence, FreshScan.note_counts]
  | present =>
    by_cases future : late sample
    · constructor <;> simp [isFreshBy, presence, future, FreshScan.note_counts]
    · by_cases old : maxAgeNs.toInt < age sample
      · have stale : ¬ age sample ≤ maxAgeNs.toInt := Int.not_le.2 old
        constructor <;> simp [isFreshBy, presence, future, old, stale, FreshScan.note_counts]
      · have young : age sample ≤ maxAgeNs.toInt := Int.not_lt.1 old
        constructor
        · simp [isFreshBy, presence, future, old, young]
        · simp only [future, old, if_false]
          split
          · simp [isFreshBy, presence, future, young]
          · split <;> simp [isFreshBy, presence, future, young]
        · simp [isFreshBy, presence, future, old, young]

/-- Judging the samples of the sources (source `classify_series`, the second loop). -/
lemma judged_foldl (part : NewestBySource) (scan : FreshScan) :
    Judged late age maxAgeNs part scan
      (part.foldl (fun scan entry => scanFreshBy late age maxAgeNs scan entry.2) scan) := by
  induction part generalizing scan with
  | nil => exact ⟨(List.append_nil _).symm, (Bool.or_false _).symm, rfl⟩
  | cons entry rest ih =>
    have first : Judged late age maxAgeNs [entry] scan _ := judged_scanFreshBy scan entry
    have others := ih (scanFreshBy late age maxAgeNs scan entry.2)
    rw [List.foldl_cons]
    constructor
    · rw [others.values, first.values, List.append_assoc, ← List.map_append, ← List.filter_append]
      rfl
    · rw [others.newest, first.newest, Bool.or_assoc, ← List.any_append]
      rfl
    · rw [others.agedOut, first.agedOut, Nat.add_assoc, ← List.countP_append]
      rfl

end Judged

/-- Some source has a measurement as its newest sample. -/
def NewestBySource.measured (newest : NewestBySource) : Bool :=
  newest.any (·.2.presence = .present)

/-- There is a newest measurement exactly when a source has one (source `newest_present`). -/
lemma isSome_newestPresent (newest : NewestBySource) :
    (newestPresent newest).isSome = newest.measured := by
  have fold (best : Option HealthSample) : (newest.foldl (fun best entry =>
      if entry.2.presence ≠ .present then best
      else match best with
        | none => some entry.2
        | some b => if b.observedAtWallNs ≤ entry.2.observedAtWallNs then some entry.2 else best)
      best).isSome = (best.isSome || newest.measured) := by
    induction newest generalizing best with
    | nil => exact (Bool.or_false _).symm
    | cons entry rest ih =>
      rw [List.foldl_cons, ih]
      by_cases present : entry.2.presence = .present
      · rw [if_neg (not_not.2 present)]
        cases best with
        | none => simp [NewestBySource.measured, present]
        | some b =>
          dsimp only
          split <;> simp
      · rw [if_pos present]
        simp [NewestBySource.measured, present]
  exact fold none

/-- What the state of a series says about the samples that count (source `classify_series`). -/
inductive SeriesVerdict (scan : NewestBySource × Nat) (threshold : Option HealthThreshold)
    (fresh : List SourceId) : MetricState → Prop
  /-- No sample counts. -/
  | empty (quiet : fresh = []) (none : scan.1 = []) :
    SeriesVerdict scan threshold fresh (if 0 < scan.2 then .fenced else .unknown)
  /-- Every source reports that it has no measurement. -/
  | absent (quiet : fresh = []) (some : scan.1 ≠ []) (unmeasured : scan.1.measured = false) :
    SeriesVerdict scan threshold fresh .unknown
  /-- No policy is published. -/
  | unjudged (quiet : fresh = []) (measured : scan.1.measured = true) (policy : threshold = none) :
    SeriesVerdict scan threshold fresh .unclassified
  /-- There are measurements, and none of them is fresh. -/
  | stale (quiet : fresh = []) (measured : scan.1.measured = true) (policy : threshold ≠ none) :
    SeriesVerdict scan threshold fresh .stale
  /-- Fresh values agree on a zone or disagree. -/
  | judged {state : MetricState} (some : fresh ≠ [])
      (zone : isThresholdZone state = true ∨ state = .conflicting) :
    SeriesVerdict scan threshold fresh state

section Verdict

variable {late : HealthSample → Prop} [DecidablePred late] {age : HealthSample → Int}

/-- Without a fresh sample, the measurements that are not fresh are all measurements. -/
lemma countP_notFresh {maxAgeNs : WallNs} {newest : NewestBySource}
    (none : newest.filter (fun entry => isFreshBy late age maxAgeNs entry.2) = []) :
    0 < newest.countP (fun entry => entry.2.presence = .present &&
      !isFreshBy late age maxAgeNs entry.2) ↔ newest.measured = true := by
  rw [List.countP_pos_iff, NewestBySource.measured, List.any_eq_true]
  refine exists_congr fun entry => and_congr_right fun member => ?_
  have stale : isFreshBy late age maxAgeNs entry.2 = false := by
    have absent := List.filter_eq_nil_iff.1 none entry member
    exact Bool.eq_false_iff.2 absent
  rw [stale, Bool.not_false, Bool.and_true]

/-- Without a fresh value or without a newest fresh sample no source is fresh: a list of fresh values
always comes with a newest fresh sample (source `classify_series`, `newest_fresh`). -/
lemma Judged.none_of_unpaired {maxAgeNs : WallNs} {newest : NewestBySource} {before after : FreshScan}
    (judged : Judged late age maxAgeNs newest before after) (start : before = {})
    (noPair : ∀ first rest sample age, after.freshValues = first :: rest →
      after.newestFresh = some (sample, age) → False) :
    newest.filter (fun entry => isFreshBy late age maxAgeNs entry.2) = [] := by
  subst start
  by_contra some
  obtain ⟨entry, kept⟩ := List.exists_mem_of_ne_nil _ some
  obtain ⟨member, fresh⟩ := List.mem_filter.1 kept
  have any : newest.any (fun entry => isFreshBy late age maxAgeNs entry.2) = true :=
    List.any_eq_true.2 ⟨entry, member, fresh⟩
  have found := judged.newest
  rw [any, Bool.or_true] at found
  obtain ⟨⟨sample, sampleAge⟩, latest⟩ := Option.isSome_iff_exists.1 found
  cases held : after.freshValues with
  | nil =>
    have values := judged.values
    rw [held, List.nil_append, eq_comm, List.map_eq_nil_iff] at values
    exact some values
  | cons first rest => exact noPair first rest sample sampleAge held latest

/-- What the classification counts as fresh, and what its state says (source `classify_series`). -/
lemma classifySeriesBy_spec (samples : List HealthSample) (threshold : Option HealthThreshold)
    (uid : ModuleUid) (incarnation : IncarnationId) :
    (classifySeriesBy late age samples threshold uid incarnation).fresh =
      (freshSourcesBy late age samples threshold uid incarnation).length ∧
    SeriesVerdict (samples.foldl (scanSample uid incarnation) ([], 0)) threshold
      (freshSourcesBy late age samples threshold uid incarnation)
      (classifySeriesBy late age samples threshold uid incarnation).state := by
  unfold classifySeriesBy freshSourcesBy
  generalize samples.foldl (scanSample uid incarnation) ([], 0) = scan
  obtain ⟨newest, fenced⟩ := scan
  dsimp only
  by_cases none : newest = []
  · -- no sample counts, whatever the policy says
    subst none
    rw [if_pos rfl]
    have verdict : SeriesVerdict ([], fenced) threshold []
        (if 0 < fenced then .fenced else .unknown) := .empty rfl rfl
    cases threshold with
    | none => split <;> simp_all
    | some t => split <;> simp_all
  · rw [if_neg none]
    cases threshold with
    | none =>
      have measured := isSome_newestPresent newest
      dsimp only
      split
      · rename_i absent
        rw [absent] at measured
        exact ⟨rfl, .absent rfl none measured.symm⟩
      · rename_i sample present
        rw [present] at measured
        exact ⟨rfl, .unjudged rfl measured.symm rfl⟩
    | some t =>
      have judged : Judged late age t.maxAgeNs newest {} _ := judged_foldl newest {}
      dsimp only
      generalize newest.foldl _ _ = scan at judged ⊢
      have agedOut := judged.agedOut
      have counted : scan.freshValues.length =
          (newest.filter fun entry => isFreshBy late age t.maxAgeNs entry.2).length := by
        rw [judged.values, List.nil_append, List.length_map]
      rw [List.length_map, ← counted]
      split
      · rename_i first rest sample sampleAge fresh _
        have some : (newest.filter fun entry => isFreshBy late age t.maxAgeNs entry.2).map (·.1) ≠
            [] := by
          intro empty
          rw [List.map_eq_nil_iff] at empty
          rw [empty, fresh] at counted
          cases counted
        split
        · exact ⟨rfl, .judged some (.inr rfl)⟩
        · exact ⟨rfl, .judged some (.inl (isThresholdZone_classifyValue t sample.value))⟩
      · rename_i noPair
        have empty := judged.none_of_unpaired rfl noPair
        have measured := countP_notFresh empty
        have initial : ({} : FreshScan).agedOutSources = 0 := rfl
        rw [initial, Nat.zero_add] at agedOut
        rw [← agedOut] at measured
        rw [empty, List.length_nil] at counted
        rw [empty, counted]
        split
        · rename_i some
          exact ⟨rfl, .stale rfl (measured.1 some) (Option.some_ne_none t)⟩
        · rename_i noMeasurement
          refine ⟨rfl, .absent rfl none (Bool.eq_false_iff.2 fun some => ?_)⟩
          exact noMeasurement (measured.2 some)

/-- The state of a series without a fresh source (source `classify_series`). -/
def quietState (scan : NewestBySource × Nat) (threshold : Option HealthThreshold) : MetricState :=
  if scan.1 = [] then if 0 < scan.2 then .fenced else .unknown
  else if scan.1.measured = false then .unknown
  else if threshold.isNone then .unclassified
  else .stale

/-- Without a fresh source, the samples that count and the policy say the state (source
`classify_series`). -/
lemma SeriesVerdict.eq_quietState {scan : NewestBySource × Nat} {state : MetricState}
    (verdict : SeriesVerdict scan threshold [] state) : state = quietState scan threshold := by
  have counts (measured : scan.1.measured = true) : scan.1 ≠ [] := by
    intro none
    rw [none] at measured
    cases measured
  unfold quietState
  cases verdict with
  | empty _ none => rw [if_pos none]
  | absent _ some unmeasured => rw [if_neg some, if_pos unmeasured]
  | unjudged _ measured policy =>
    rw [if_neg (counts measured), measured, policy]
    rfl
  | stale _ measured policy =>
    rw [if_neg (counts measured), measured]
    cases published : threshold with
    | none => exact absurd published policy
    | some t => rfl
  | judged some => exact absurd rfl some

/-- A state that is no judgement of fresh values comes without a fresh source
(source `classify_series`). -/
lemma SeriesVerdict.quiet {scan : NewestBySource × Nat} {fresh : List SourceId}
    {state : MetricState} (verdict : SeriesVerdict scan threshold fresh state)
    (unjudged : state = .stale ∨ state = .unknown ∨ state = .fenced) : fresh = [] := by
  cases verdict with
  | empty quiet => exact quiet
  | absent quiet => exact quiet
  | unjudged quiet => exact quiet
  | stale quiet => exact quiet
  | judged _ zone =>
    exfalso
    obtain rfl | rfl | rfl := unjudged <;> revert zone <;> decide

end Verdict

/-- A sample that is fresh at a reading was fresh at every earlier one it was not late for
(source `classify_series`, the second loop). -/
lemma isFresh_mono {n n' skew : Int} (later : n ≤ n') {maxAgeNs : WallNs} {sample : HealthSample}
    (known : sample.presence = .present → sample.wall ≤ n + skew)
    (fresh : isFreshBy (fun sample => n' + skew < sample.wall) (ageAt n') maxAgeNs sample = true) :
    isFreshBy (fun sample => n + skew < sample.wall) (ageAt n) maxAgeNs sample = true := by
  simp only [isFreshBy, Bool.and_eq_true, decide_eq_true_eq, Bool.not_eq_true',
    decide_eq_false_iff_not] at fresh ⊢
  obtain ⟨⟨present, _⟩, young⟩ := fresh
  have older : ageAt n sample ≤ ageAt n' sample := by
    unfold ageAt
    split <;> split <;> omega
  exact ⟨⟨present, Int.not_lt.2 (known present)⟩, older.trans young⟩

/-- Without new evidence a source can only stop being fresh: at a later reading of the clock the
fresh sources are among the earlier ones, a stale series stays stale, and an unknown or a fenced
series keeps its state (source `classify_series`). -/
theorem staleness_is_permanent {n n' skew : Int} (later : n ≤ n')
    (known : ∀ sample ∈ samples, sample.presence = .present → sample.wall ≤ n + skew) :
    (∀ m, (classifySeriesAt m skew samples threshold uid incarnation).fresh =
      (freshSourcesAt m skew samples threshold uid incarnation).length) ∧
    freshSourcesAt n' skew samples threshold uid incarnation ⊆
      freshSourcesAt n skew samples threshold uid incarnation ∧
    ∀ state, state = .stale ∨ state = .unknown ∨ state = .fenced →
      (classifySeriesAt n skew samples threshold uid incarnation).state = state →
      (classifySeriesAt n' skew samples threshold uid incarnation).state = state := by
  have spec (m : Int) : (classifySeriesAt m skew samples threshold uid incarnation).fresh =
      (freshSourcesAt m skew samples threshold uid incarnation).length ∧
      SeriesVerdict (samples.foldl (scanSample uid incarnation) ([], 0)) threshold
        (freshSourcesAt m skew samples threshold uid incarnation)
        (classifySeriesAt m skew samples threshold uid incarnation).state :=
    classifySeriesBy_spec samples threshold uid incarnation
  have fewer : freshSourcesAt n' skew samples threshold uid incarnation ⊆
      freshSourcesAt n skew samples threshold uid incarnation := by
    intro source fresh
    cases threshold with
    | none => exact absurd fresh List.not_mem_nil
    | some t =>
      obtain ⟨entry, kept, rfl⟩ := List.mem_map.1 fresh
      obtain ⟨member, fresh⟩ := List.mem_filter.1 kept
      have stored : entry.2 ∈ samples := (mem_foldl_scanSample.1 member).mem
      exact List.mem_map_of_mem (List.mem_filter.2
        ⟨member, isFresh_mono later (known entry.2 stored) fresh⟩)
  refine ⟨fun m => (spec m).1, fewer, ?_⟩
  rintro state unjudged rfl
  have before := (spec n).2
  have after := (spec n').2
  have quiet := before.quiet unjudged
  rw [quiet] at fewer
  have quiet' := List.subset_nil.1 fewer
  rw [quiet] at before
  rw [quiet'] at after
  rw [before.eq_quietState, after.eq_quietState]

/-- A measurement of the temperature of the first module. -/
def takenAt (observed : WallNs) : HealthSample :=
  ⟨.temperatureCelsius, kModuleLane, .present, .ofInt 20, observed, 0, 1, hostEvidence, 1, 1, 1, 1,
    1, 1, true⟩

/-- A measurement taken at 1 is stale at 1000, and so it is at 2000. -/
theorem staleness_is_permanent_later :
    (classifySeriesAt 2000 10 [takenAt 1] (some (temperaturePolicy 1)) 1 1).state = .stale := by
  have known : ∀ sample ∈ [takenAt 1], sample.presence = .present →
      sample.wall ≤ (1000 : Int) + 10 := by decide +kernel
  have later : (1000 : Int) ≤ 2000 := by decide
  have stale : (classifySeriesAt 1000 10 [takenAt 1] (some (temperaturePolicy 1)) 1 1).state =
      .stale := by decide +kernel
  exact (staleness_is_permanent later known).2.2 .stale (.inl rfl) stale

end TransceiverRegistry
