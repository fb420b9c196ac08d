import TransceiverRegistry.Registry.Evidenced

/-!
# What a row of a report depends on

The state shown for a series is a function of the newest live samples of its sources, of whether
there is a fenced sample, of the effective threshold, of the clock and of the latch. Two records
that agree on these show the same.
-/

namespace TransceiverRegistry

open Lib

/-- The state of a series without hysteresis, from the samples kept of its sources (source
`classify_series`). -/
def judgedState (newest : NewestBySource) (fenced : Bool) (threshold : Option HealthThreshold)
    (now : WallNs) (skew : Int64) : MetricState :=
  if newest = [] then if fenced then .fenced else .unknown
  else match threshold with
  | none =>
    match newestPresent newest with
    | none => .unknown
    | some _ => .unclassified
  | some t =>
    let fresh := newest.foldl (fun scan entry => scanFresh t.maxAgeNs now skew scan entry.2) {}
    match fresh.freshValues, fresh.newestFresh with
    | first :: rest, some (sample, _) =>
      if 1 < (first :: rest).length ∧
          t.disagreementTolerance.lt (spread first (first :: rest)) = true then .conflicting
      else classifyValue t sample.value
    | _, _ => if 0 < fresh.agedOutSources then .stale else .unknown

/-- The classification shows the judged state (source `classify_series`). -/
lemma classifySeries_state (samples : List HealthSample) (threshold : Option HealthThreshold)
    (uid : ModuleUid) (incarnation : IncarnationId) (now : WallNs) (skew : Int64) :
    (classifySeries samples threshold uid incarnation now skew).state =
      judgedState (samples.foldl (scanSample uid incarnation) ([], 0)).1
        (decide (0 < (samples.foldl (scanSample uid incarnation) ([], 0)).2)) threshold now skew := by
  simp only [classifySeries, judgedState]
  split
  · split <;> simp [*]
  · cases threshold with
    | none =>
      simp only
      split <;> simp [*]
    | some t =>
      simp only
      generalize (samples.foldl (scanSample uid incarnation) ([], 0)).1.foldl
        (fun scan entry => scanFresh t.maxAgeNs now skew scan entry.2) {} = fresh
      obtain ⟨values, best, _, _, _, _, _⟩ := fresh
      cases values with
      | nil =>
        simp only
        split <;> rfl
      | cons first rest =>
        cases best with
        | none =>
          simp only
          split <;> rfl
        | some entry =>
          simp only
          split <;> rfl

/-- What a latch makes of a judged state (source `build_health_report`, the latch). -/
def shownState (judged : MetricState) (latch : Option HealthLatchRecord) : MetricState :=
  match latch with
  | some entry =>
    if isThresholdZone judged = true ∧ isThresholdZone entry.latch.state = true then
      entry.latch.state
    else judged
  | none => judged

/-- The judged state of a series of a module (source `build_health_report`, the loop). -/
def judgedSeries (config : RegistryConfig) (now : WallNs) (s : State) (record : ModuleRecord)
    (metric : HealthMetric) (lane : UInt16) : MetricState :=
  let scan := (seriesOf s record metric lane).foldl (scanSample record.uid record.incarnation) ([], 0)
  judgedState scan.1 (decide (0 < scan.2)) (selectThreshold (liveThresholds s) metric lane) now
    config.maxFutureSkewNs

/-- The state shown for a series of a module (source `build_health_report`, the loop). -/
def shownSeries (config : RegistryConfig) (now : WallNs) (s : State) (record : ModuleRecord)
    (metric : HealthMetric) (lane : UInt16) : MetricState :=
  shownState (judgedSeries config now s record metric lane) (findLatch record.latches metric lane)

/-- A row shows the state of its series (source `build_health_report`, the loop). -/
lemma classifyRow_state (config : RegistryConfig) (now : WallNs) (s : State) (record : ModuleRecord)
    (row : SeriesKey) :
    (classifyRow config now s record row).2.metric = WireEnum.ofCode row.1.toNat ∧
    (classifyRow config now s record row).2.lane = row.2 ∧
    (classifyRow config now s record row).2.state =
      shownSeries config now s record (WireEnum.ofCode row.1.toNat) row.2 := by
  have judged : (classifySeries (seriesOf s record (WireEnum.ofCode row.1.toNat) row.2)
      (selectThreshold (liveThresholds s) (WireEnum.ofCode row.1.toNat) row.2) record.uid
      record.incarnation now config.maxFutureSkewNs).state =
      judgedSeries config now s record (WireEnum.ofCode row.1.toNat) row.2 :=
    classifySeries_state _ _ _ _ _ _
  refine ⟨?_, ?_, ?_⟩
  · simp only [classifyRow]
    split
    · split <;> rfl
    · rfl
  · simp only [classifyRow]
    split
    · split <;> rfl
    · rfl
  · rw [shownSeries, ← judged]
    cases found : findLatch record.latches (WireEnum.ofCode row.1.toNat) row.2 with
    | none => simp only [classifyRow, shownState, found, seriesOf]
    | some entry =>
      simp only [classifyRow, shownState, found, seriesOf]
      split
      · rename_i zones
        exact (if_pos zones).symm
      · rename_i notZones
        exact (if_neg notZones).symm

/-- The metric of a series is read back from its key (source `build_health_report`, the loop). -/
lemma ofCode_seriesKey (metric : HealthMetric) (lane : UInt16) :
    (WireEnum.ofCode (seriesKey metric lane).1.toNat : HealthMetric) = metric := by
  have small : code metric < 256 := (WireEnum.code_le metric).trans_lt WireEnum.last_lt
  rw [seriesKey, UInt8.toNat_ofNat_of_lt' small, WireEnum.ofCode_code]

/-- The rows considered are the old ones and the added ones (source `build_health_report`,
`add_row`). -/
lemma mem_foldl_addRow {rows added : List SeriesKey} {row : SeriesKey} :
    row ∈ added.foldl addRow rows ↔ row ∈ rows ∨ row ∈ added := by
  induction added generalizing rows with
  | nil => simp
  | cons first rest ih =>
    have one : row ∈ addRow rows first ↔ row ∈ rows ∨ row = first := by
      unfold addRow
      split
      · rename_i known
        refine ⟨.inl, ?_⟩
        rintro (old | rfl)
        · exact old
        · exact known
      · rw [List.mem_append, List.mem_singleton]
    rw [List.foldl_cons, ih, one, List.mem_cons, or_assoc]

/-- The series a report considers: those of the thresholds in force, of the samples of the current
incarnation and of the declared telemetry (source `build_health_report`, `rows`). -/
lemma mem_reportRows [StdSort] {s : State} {record : ModuleRecord} {row : SeriesKey} :
    row ∈ reportRows s record ↔
      row ∈ (liveThresholds s).map (fun t => seriesKey t.metric t.lane) ∨
      row ∈ (record.samples.filter (·.incarnation = record.incarnation)).map
        (fun sample => seriesKey sample.metric sample.lane) ∨
      row ∈ record.declarations.filterMap (declaredSeries record) := by
  rw [reportRows, (StdSort.perm _ _).mem_iff, mem_foldl_addRow, List.mem_append, List.mem_append]
  simp only [List.not_mem_nil, false_or, or_assoc]

/-- Lists of samples in the order of their sources are equal when they hold the same. -/
lemma NewestBySource.ext {l l' : NewestBySource} (sorted : l.Pairwise fun a b => a.1 < b.1)
    (sorted' : l'.Pairwise fun a b => a.1 < b.1)
    (same : ∀ source, l.lookup source = l'.lookup source) : l = l' := by
  have irrefl (entry : SourceId × HealthSample) : ¬ entry.1 < entry.1 := UInt32.lt_irrefl _
  have nodup {k : NewestBySource} (h : k.Pairwise fun a b => a.1 < b.1) : k.Nodup := by
    refine List.Pairwise.imp ?_ h
    rintro a b less rfl
    exact irrefl a less
  have perm : l.Perm l' := (List.perm_ext_iff_of_nodup (nodup sorted) (nodup sorted')).2 (by
    rintro ⟨source, sample⟩
    rw [NewestBySource.mem_iff_lookup sorted, NewestBySource.mem_iff_lookup sorted', same])
  refine perm.eq_of_pairwise ?_ sorted sorted'
  intro a b _ _ ab ba
  exact absurd (UInt32.lt_trans ab ba) (irrefl a)

/-- A stored sample of a series that is fenced: it is about another incarnation or was recorded under
another epoch of its source. -/
def fencedSample (s : State) (record : ModuleRecord) (metric : HealthMetric) (lane : UInt16)
    (sample : HealthSample) : Bool :=
  sample.module = record.uid &&
  !(decide (sample.incarnation = record.incarnation) &&
    sourceIsLive s sample.source sample.sourceEpoch) &&
  (sample.metric = metric && sample.lane = lane)

/-- There is a fenced sample in a series when the count says so (source `classify_series`, the first
loop). -/
lemma fenced_foldl_scanSample {uid : ModuleUid} {incarnation : IncarnationId}
    (samples : List HealthSample) :
    (samples.foldl (scanSample uid incarnation) ([], 0)).2 = samples.countP fun sample =>
      sample.module = uid ∧ (sample.incarnation ≠ incarnation ∨ sample.live = false) := by
  have fold (scan : NewestBySource × Nat) :
      (samples.foldl (scanSample uid incarnation) scan).2 = scan.2 + samples.countP fun sample =>
        sample.module = uid ∧ (sample.incarnation ≠ incarnation ∨ sample.live = false) := by
    induction samples generalizing scan with
    | nil => rfl
    | cons sample rest ih =>
      rw [List.foldl_cons, ih, List.countP_cons]
      unfold scanSample
      by_cases foreign : sample.module = uid
      · rw [if_neg (not_not.2 foreign)]
        by_cases fenced : sample.incarnation ≠ incarnation ∨ sample.live = false
        · rw [if_pos fenced, if_pos (decide_eq_true ⟨foreign, fenced⟩)]
          omega
        · rw [if_neg fenced, if_neg (by simpa [foreign] using fenced)]
          split
          · rfl
          · split <;> rfl
      · rw [if_pos foreign, if_neg (by simp [foreign])]
        rfl
  have whole := fold ([], 0)
  rw [whole, Nat.zero_add]

/-- A series has a fenced sample when one is stored (source `build_health_report`, `marked`). -/
lemma fenced_seriesOf (s : State) (record : ModuleRecord) (metric : HealthMetric) (lane : UInt16) :
    0 < ((seriesOf s record metric lane).foldl (scanSample record.uid record.incarnation)
      ([], 0)).2 ↔ ∃ sample ∈ record.samples, fencedSample s record metric lane sample = true := by
  rw [fenced_foldl_scanSample, List.countP_pos_iff]
  have marked (sample : HealthSample) : (markSample s record sample).live = false ↔
      ¬ (sample.incarnation = record.incarnation ∧
        sourceIsLive s sample.source sample.sourceEpoch = true) := by
    rw [← Bool.not_eq_true, markSample, Bool.and_eq_true, decide_eq_true_iff]
  constructor
  · rintro ⟨sample', member, fenced⟩
    obtain ⟨inSeries, series⟩ := List.mem_filter.1 member
    obtain ⟨sample, stored, rfl⟩ := List.mem_map.1 inSeries
    obtain ⟨own, apart⟩ := of_decide_eq_true fenced
    obtain ⟨ofMetric, ofLane⟩ := of_decide_eq_true series
    refine ⟨sample, stored, ?_⟩
    have dead : ¬ (sample.incarnation = record.incarnation ∧
        sourceIsLive s sample.source sample.sourceEpoch = true) := by
      rintro ⟨current, live⟩
      obtain other | notLive := apart
      · exact other current
      · exact (marked sample).1 notLive ⟨current, live⟩
    simp only [fencedSample, Bool.and_eq_true, Bool.not_eq_true', decide_eq_true_eq]
    refine ⟨⟨own, ?_⟩, ofMetric, ofLane⟩
    rw [← Bool.not_eq_true, Bool.and_eq_true, decide_eq_true_iff]
    exact dead
  · rintro ⟨sample, stored, fenced⟩
    simp only [fencedSample, Bool.and_eq_true, Bool.not_eq_true', decide_eq_true_eq] at fenced
    obtain ⟨⟨own, dead⟩, ofMetric, ofLane⟩ := fenced
    refine ⟨markSample s record sample, List.mem_filter.2 ⟨List.mem_map_of_mem stored,
      decide_eq_true ⟨ofMetric, ofLane⟩⟩, decide_eq_true ⟨own, .inr ?_⟩⟩
    rw [marked]
    rw [← Bool.not_eq_true, Bool.and_eq_true, decide_eq_true_iff] at dead
    exact dead

/-- A sample without the numbers of the mutation that stored it. -/
def HealthSample.unstamped (sample : HealthSample) : HealthSample :=
  { sample with generation := 0, sequence := 0 }

/-- The samples of the sources without their numbers. -/
def NewestBySource.unstamped (l : NewestBySource) : NewestBySource :=
  l.map fun entry => (entry.1, entry.2.unstamped)

/-- What the second loop has seen, without the numbers of the samples. -/
def FreshScan.unstamped (scan : FreshScan) : FreshScan :=
  { scan with newestFresh := scan.newestFresh.map fun best => (best.1.unstamped, best.2) }

/-- A note does not depend on the numbers of the samples. -/
lemma FreshScan.note_unstamped (scan : FreshScan) (reason : String) (kind : HealthIssueKind) :
    scan.unstamped.note reason kind = (scan.note reason kind).unstamped := by
  unfold FreshScan.note
  split
  · rename_i empty
    rw [if_pos (show scan.unusableReason = [] from empty)]
    rfl
  · rename_i full
    rw [if_neg (show ¬ scan.unusableReason = [] from full)]

/-- Judging a sample does not depend on its numbers (source `classify_series`, the second loop). -/
lemma scanFresh_unstamped (maxAgeNs now : WallNs) (skew : Int64) (scan : FreshScan)
    (sample : HealthSample) : scanFresh maxAgeNs now skew scan.unstamped sample.unstamped =
      (scanFresh maxAgeNs now skew scan sample).unstamped := by
  let unusable : FreshScan :=
    { scan with presenceUnusableSources := scan.presenceUnusableSources + 1 }
  let aged : FreshScan := { scan with agedOutSources := scan.agedOutSources + 1 }
  let future : FreshScan := { aged with futureSources := scan.futureSources + 1 }
  cases presence : sample.presence with
  | notAvailable =>
    simp only [scanFresh, HealthSample.unstamped, presence]
    exact unusable.note_unstamped _ _
  | readError =>
    simp only [scanFresh, HealthSample.unstamped, presence]
    exact unusable.note_unstamped _ _
  | notSupported =>
    simp only [scanFresh, HealthSample.unstamped, presence]
    exact unusable.note_unstamped _ _
  | present =>
    have age : sampleAge now sample.unstamped = sampleAge now sample := rfl
    have wall (x : HealthSample) : x.unstamped.observedAtWallNs = x.observedAtWallNs := rfl
    have present : sample.unstamped.presence = .present := presence
    simp only [scanFresh, presence, present, age, wall]
    split
    · exact future.note_unstamped _ _
    · split
      · exact aged.note_unstamped _ _
      · cases best : scan.newestFresh with
        | none =>
          simp only [FreshScan.unstamped, best, Option.map_none, Option.map_some]
          rfl
        | some entry =>
          simp only [FreshScan.unstamped, best, Option.map_some, wall]
          by_cases later : entry.1.observedAtWallNs ≤ sample.observedAtWallNs
          · rw [if_pos later, if_pos later]
            rfl
          · rw [if_neg later, if_neg later]
            rfl

/-- The second loop does not depend on the numbers of the samples (source `classify_series`). -/
lemma foldl_scanFresh_unstamped (maxAgeNs now : WallNs) (skew : Int64) (l : NewestBySource)
    (scan : FreshScan) :
    l.unstamped.foldl (fun scan entry => scanFresh maxAgeNs now skew scan entry.2) scan.unstamped =
      (l.foldl (fun scan entry => scanFresh maxAgeNs now skew scan entry.2) scan).unstamped := by
  induction l generalizing scan with
  | nil => rfl
  | cons entry rest ih =>
    rw [List.foldl_cons, ← ih, ← scanFresh_unstamped]
    rfl

/-- The newest measurement does not depend on the numbers of the samples (source
`newest_present`). -/
lemma newestPresent_unstamped (l : NewestBySource) :
    newestPresent l.unstamped = (newestPresent l).map HealthSample.unstamped := by
  have fold (best : Option HealthSample) :
      l.unstamped.foldl (fun best entry =>
        if entry.2.presence ≠ .present then best
        else match best with
          | none => some entry.2
          | some b => if b.observedAtWallNs ≤ entry.2.observedAtWallNs then some entry.2 else best)
        (best.map HealthSample.unstamped) =
      (l.foldl (fun best entry =>
        if entry.2.presence ≠ .present then best
        else match best with
          | none => some entry.2
          | some b => if b.observedAtWallNs ≤ entry.2.observedAtWallNs then some entry.2 else best)
        best).map HealthSample.unstamped := by
    induction l generalizing best with
    | nil => rfl
    | cons entry rest ih =>
      rw [List.foldl_cons, ← ih]
      simp only [NewestBySource.unstamped, List.map_cons, List.foldl_cons]
      congr 1
      show (if entry.2.presence ≠ .present then _ else _) = _
      by_cases absent : entry.2.presence ≠ .present
      · rw [if_pos absent, if_pos absent]
      · rw [if_neg absent, if_neg absent]
        cases best with
        | none => rfl
        | some b =>
          show (if b.observedAtWallNs ≤ entry.2.observedAtWallNs then _ else _) = Option.map _
            (if b.observedAtWallNs ≤ entry.2.observedAtWallNs then _ else _)
          by_cases later : b.observedAtWallNs ≤ entry.2.observedAtWallNs
          · rw [if_pos later, if_pos later]
            rfl
          · rw [if_neg later, if_neg later]
  exact fold none

/-- The judged state does not depend on the numbers of the samples (source `classify_series`). -/
lemma judgedState_unstamped (l : NewestBySource) (fenced : Bool)
    (threshold : Option HealthThreshold) (now : WallNs) (skew : Int64) :
    judgedState l.unstamped fenced threshold now skew =
      judgedState l fenced threshold now skew := by
  have empty : l.unstamped = [] ↔ l = [] := List.map_eq_nil_iff
  unfold judgedState
  simp only [empty]
  split
  · rfl
  · cases threshold with
    | none =>
      rw [newestPresent_unstamped]
      cases newestPresent l <;> rfl
    | some t =>
      have loop := foldl_scanFresh_unstamped t.maxAgeNs now skew l {}
      rw [show (FreshScan.unstamped {}) = {} from rfl] at loop
      simp only [loop]
      generalize l.foldl (fun scan entry => scanFresh t.maxAgeNs now skew scan entry.2) {} = fresh
      obtain ⟨values, best, _, _, _, _, _⟩ := fresh
      cases values with
      | nil => rfl
      | cons first rest => cases best <;> rfl

/-- A threshold without the numbers of the mutation that published it. -/
def HealthThreshold.unstamped (threshold : HealthThreshold) : HealthThreshold :=
  { threshold with generation := 0, sequence := 0 }

/-- The threshold selected does not depend on the numbers of the thresholds (source
`select_threshold`). -/
lemma selectThreshold_unstamped (thresholds : List HealthThreshold) (metric : HealthMetric)
    (lane : UInt16) : selectThreshold (thresholds.map HealthThreshold.unstamped) metric lane =
      (selectThreshold thresholds metric lane).map HealthThreshold.unstamped := by
  let choose (best : Option HealthThreshold × Option HealthThreshold) (t : HealthThreshold) :=
    if t.live = false ∨ t.metric ≠ metric then best
    else if t.lane = lane then (some t, best.2)
    else if t.lane = kModuleLane then (best.1, some t)
    else best
  let plain (best : Option HealthThreshold × Option HealthThreshold) :=
    (best.1.map HealthThreshold.unstamped, best.2.map HealthThreshold.unstamped)
  have step (best : Option HealthThreshold × Option HealthThreshold) (t : HealthThreshold) :
      choose (plain best) t.unstamped = plain (choose best t) := by
    show (if t.live = false ∨ t.metric ≠ metric then plain best
      else if t.lane = lane then (some t.unstamped, (plain best).2)
      else if t.lane = kModuleLane then ((plain best).1, some t.unstamped)
      else plain best) = _
    simp only [choose]
    split
    · rfl
    · split
      · rfl
      · split <;> rfl
  have fold (best : Option HealthThreshold × Option HealthThreshold) :
      (thresholds.map HealthThreshold.unstamped).foldl choose (plain best) =
        plain (thresholds.foldl choose best) := by
    induction thresholds generalizing best with
    | nil => rfl
    | cons t rest ih => rw [List.map_cons, List.foldl_cons, step, ih, List.foldl_cons]
  have scan : (thresholds.map HealthThreshold.unstamped).foldl choose (none, none) =
      plain (thresholds.foldl choose (none, none)) := fold (none, none)
  show (HOrElse.hOrElse ((thresholds.map HealthThreshold.unstamped).foldl choose (none, none)).1
    fun _ => ((thresholds.map HealthThreshold.unstamped).foldl choose (none, none)).2) =
    Option.map _ (HOrElse.hOrElse (thresholds.foldl choose (none, none)).1 fun _ =>
      (thresholds.foldl choose (none, none)).2)
  rw [scan]
  generalize thresholds.foldl choose (none, none) = best
  obtain ⟨ofLane, ofModule⟩ := best
  cases ofLane <;> rfl

/-- What is kept of a source, without its numbers. -/
lemma NewestBySource.lookup_unstamped (l : NewestBySource) (source : SourceId) :
    l.unstamped.lookup source = (l.lookup source).map HealthSample.unstamped := by
  induction l with
  | nil => rfl
  | cons entry rest ih =>
    have cons : NewestBySource.unstamped (entry :: rest) =
        (entry.1, entry.2.unstamped) :: NewestBySource.unstamped rest := rfl
    rw [cons, NewestBySource.lookup_cons, ih, NewestBySource.lookup_cons entry.1 entry.2 rest]
    split <;> rfl

section Congr

variable {config : RegistryConfig} {now : WallNs} {s s' : State} {record record' : ModuleRecord}
  {metric : HealthMetric} {lane : UInt16}

/-- The judged state depends on the selected threshold, on the newest live samples of the sources,
and, when there is no live sample, on whether there is a fenced one, all without numbers. -/
lemma judgedSeries_congr
    (thresholds : (selectThreshold (liveThresholds s') metric lane).map HealthThreshold.unstamped =
      (selectThreshold (liveThresholds s) metric lane).map HealthThreshold.unstamped)
    (same : ∀ source, (newest (liveSample s' record' metric lane source) HealthSample.wall
        record'.samples).map HealthSample.unstamped =
      (newest (liveSample s record metric lane source) HealthSample.wall
        record.samples).map HealthSample.unstamped)
    (fenced : (∃ source, newest (liveSample s record metric lane source) HealthSample.wall
        record.samples ≠ none) ∨
      ((∃ sample ∈ record'.samples, fencedSample s' record' metric lane sample = true) ↔
        ∃ sample ∈ record.samples, fencedSample s record metric lane sample = true)) :
    judgedSeries config now s' record' metric lane = judgedSeries config now s record metric lane := by
  let scan := (seriesOf s record metric lane).foldl (scanSample record.uid record.incarnation) ([], 0)
  let scan' := (seriesOf s' record' metric lane).foldl
    (scanSample record'.uid record'.incarnation) ([], 0)
  -- a kept sample is live, so marking it sets its flag
  have marked (s : State) (record : ModuleRecord) (source : SourceId) :
      ((newest (liveSample s record metric lane source) HealthSample.wall record.samples).map
        (markSample s record)).map HealthSample.unstamped =
      ((newest (liveSample s record metric lane source) HealthSample.wall record.samples).map
        HealthSample.unstamped).map fun sample => { sample with live := true } := by
    cases found : newest (liveSample s record metric lane source) HealthSample.wall
        record.samples with
    | none => rfl
    | some sample =>
      have holds := (newest_eq_some_iff.1 found).holds
      simp only [liveSample, Bool.and_eq_true, decide_eq_true_eq] at holds
      obtain ⟨⟨⟨⟨_, incarnation⟩, live⟩, _⟩, _⟩ := holds
      simp [markSample, HealthSample.unstamped, incarnation, live]
  have kept : scan'.1.unstamped = scan.1.unstamped := by
    refine NewestBySource.ext ?_ ?_ fun source => ?_
    · exact (pairwise_foldl_scanSample _).map _ fun _ _ less => less
    · exact (pairwise_foldl_scanSample _).map _ fun _ _ less => less
    · rw [NewestBySource.lookup_unstamped, NewestBySource.lookup_unstamped,
        lookup_foldl_scanSample, lookup_foldl_scanSample, newest_seriesOf, newest_seriesOf, marked,
        marked, same]
  have threshold (l : NewestBySource) (fenced : Bool) (t : Option HealthThreshold) :
      judgedState l fenced (t.map HealthThreshold.unstamped) now config.maxFutureSkewNs =
        judgedState l fenced t now config.maxFutureSkewNs := by
    cases t <;> rfl
  show judgedState scan'.1 (decide (0 < scan'.2)) _ now config.maxFutureSkewNs =
    judgedState scan.1 (decide (0 < scan.2)) _ now config.maxFutureSkewNs
  rw [← judgedState_unstamped, kept, judgedState_unstamped, ← threshold, thresholds, threshold]
  obtain ⟨source, live⟩ | iff := fenced
  · have some : scan.1 ≠ [] := by
      intro none
      have found : scan.1.lookup source = newest
          (HealthSample.countsFor record.uid record.incarnation source) HealthSample.wall
          (seriesOf s record metric lane) := lookup_foldl_scanSample _ source
      rw [none, newest_seriesOf] at found
      exact live (Option.map_eq_none_iff.1 found.symm)
    simp only [judgedState, if_neg some]
  · have count : 0 < scan'.2 ↔ 0 < scan.2 := by
      rw [fenced_seriesOf, fenced_seriesOf]
      exact iff
    rw [decide_eq_decide.2 count]

end Congr

/-- The latch of a series, new when there is none (source `find_latch` and the latch block of
`Registry::ingest_health`). -/
def latchOf (latches : List HealthLatchRecord) (metric : HealthMetric) (lane : UInt16) :
    HealthLatch :=
  match findLatch latches metric lane with
  | some entry => entry.latch
  | none => HealthLatch.new

/-- The latch of a series behind the first entry. -/
lemma latchOf_cons (entry : HealthLatchRecord) (rest : List HealthLatchRecord)
    (metric : HealthMetric) (lane : UInt16) : latchOf (entry :: rest) metric lane =
      if entry.metric = metric ∧ entry.lane = lane then entry.latch
      else latchOf rest metric lane := by
  unfold latchOf findLatch
  rw [List.find?_cons]
  by_cases own : entry.metric = metric ∧ entry.lane = lane
  · rw [if_pos own, decide_eq_true own]
  · rw [if_neg own, decide_eq_false own]

/-- Changing the latch of a series leaves the other ones (source `Registry::ingest_health`, the latch
block). -/
lemma latchOf_updateLatch (metric metric' : HealthMetric) (lane lane' : UInt16)
    (f : HealthLatch → HealthLatch) (latches : List HealthLatchRecord) :
    latchOf (updateLatch metric lane f latches) metric' lane' =
      if metric = metric' ∧ lane = lane' then f (latchOf latches metric' lane')
      else latchOf latches metric' lane' := by
  induction latches with
  | nil => exact latchOf_cons _ [] metric' lane'
  | cons entry rest ih =>
    unfold updateLatch
    by_cases own : entry.metric = metric ∧ entry.lane = lane
    · obtain ⟨rfl, rfl⟩ := own
      rw [if_pos ⟨rfl, rfl⟩, latchOf_cons, latchOf_cons]
      split <;> rfl
    · rw [if_neg own, latchOf_cons, ih, latchOf_cons]
      by_cases here : entry.metric = metric' ∧ entry.lane = lane'
      · rw [if_pos here, if_pos here, if_neg]
        rintro ⟨rfl, rfl⟩
        exact own here
      · rw [if_neg here, if_neg here]

/-- What is shown is the state of the latch when both are zones (source `build_health_report`, the
latch). -/
lemma shownState_latchOf (judged : MetricState) (latches : List HealthLatchRecord)
    (metric : HealthMetric) (lane : UInt16) : shownState judged (findLatch latches metric lane) =
      if isThresholdZone judged = true ∧
          isThresholdZone (latchOf latches metric lane).state = true then
        (latchOf latches metric lane).state
      else judged := by
  unfold shownState latchOf
  cases findLatch latches metric lane with
  | none => simp [HealthLatch.new, isThresholdZone]
  | some entry => rfl

/-- The zone of a value for a latch: the zone the latch is in is left at its exit bound, the other
ones are entered at their entry bounds (source `advance_latch`, `zone`). -/
def latchZone (threshold : HealthThreshold) (state : MetricState) (value : Binary64) :
    MetricState :=
  if threshold.hasCritical && threshold.direction.reaches value
      (if state = .critical then threshold.criticalExit else threshold.criticalEnter) then .critical
  else if threshold.hasDegraded && threshold.direction.reaches value
      (if state = .degraded then threshold.degradedExit else threshold.degradedEnter) then .degraded
  else .ok

/-- The zone and the count of a latch after one more measurement (source `advance_latch`). -/
def latchMove (threshold : HealthThreshold) (latch : MetricState × UInt32) (value : Binary64) :
    MetricState × UInt32 :=
  let zone := latchZone threshold latch.1 value
  let counted (most : UInt32) : MetricState × UInt32 :=
    if most ≤ latch.2 + 1 then (zone, 0) else (latch.1, latch.2 + 1)
  if isThresholdZone latch.1 = false then (zone, 0)
  else if zone = latch.1 then (latch.1, 0)
  else if zoneRank latch.1 < zoneRank zone then counted threshold.escalateAfter
  else counted threshold.recoverAfter

/-- Advancing a latch moves its zone and its count (source `advance_latch`). -/
lemma advanceLatch_move (threshold : HealthThreshold) (latch : HealthLatch) (value : Binary64)
    (wall : WallNs) (sequence : Sequence) (generation : Generation) :
    ((advanceLatch threshold latch value wall sequence generation).state,
      (advanceLatch threshold latch value wall sequence generation).consecutive) =
    latchMove threshold (latch.state, latch.consecutive) value := by
  let zone := latchZone threshold latch.state value
  let entered : HealthLatch := { latch with
    state := zone, consecutive := 0, lastTransitionGeneration := generation,
    lastTransitionWallNs := wall }
  let counted (most : UInt32) : HealthLatch :=
    if most ≤ latch.consecutive + 1 then entered
    else { latch with consecutive := latch.consecutive + 1 }
  have counts (most : UInt32) : ((counted most).state, (counted most).consecutive) =
      if most ≤ latch.consecutive + 1 then (zone, 0) else (latch.state, latch.consecutive + 1) := by
    simp only [counted]
    split <;> rfl
  have advanced : advanceLatch threshold latch value wall sequence generation =
      { (if isThresholdZone latch.state = false then entered
        else if zone = latch.state then { latch with consecutive := 0 }
        else if zoneRank latch.state < zoneRank zone then counted threshold.escalateAfter
        else counted threshold.recoverAfter) with
        lastSampleWallNs := wall, lastSampleSequence := sequence } := rfl
  rw [advanced]
  simp only [latchMove]
  split
  · rfl
  · split
    · rfl
    · split
      · exact counts threshold.escalateAfter
      · exact counts threshold.recoverAfter

/-- A latch that was moved is in a zone (source `advance_latch`). -/
lemma latchMove_zone (threshold : HealthThreshold) (latch : MetricState × UInt32)
    (value : Binary64) : isThresholdZone (latchMove threshold latch value).1 = true := by
  have chosen (a b : Bool) :
      isThresholdZone (if a then .critical else if b then .degraded else .ok) = true := by
    cases a <;> cases b <;> rfl
  have entered : isThresholdZone (latchZone threshold latch.1 value) = true := chosen _ _
  simp only [latchMove]
  by_cases known : isThresholdZone latch.1 = false
  · rw [if_pos known]
    exact entered
  · have known' := Bool.of_not_eq_false known
    have counted (most : UInt32) : isThresholdZone (if most ≤ latch.2 + 1 then
        (latchZone threshold latch.1 value, 0) else (latch.1, latch.2 + 1)).1 = true := by
      split
      · exact entered
      · exact known'
    rw [if_neg known]
    split
    · exact known'
    · split
      · exact counted threshold.escalateAfter
      · exact counted threshold.recoverAfter

end TransceiverRegistry
