import TransceiverRegistry.Lib.Newest
import TransceiverRegistry.Lib.Binary64Order
import TransceiverRegistry.Registry.HealthReport

/-!
# How a series is judged

The classification of a series read off from the stored samples: the sample that counts for a source
is its newest live one, and a zone is reported only for fresh values that agree.
-/

namespace TransceiverRegistry

open Lib

section Lookup

variable {l : NewestBySource} {source other : SourceId} {sample : HealthSample}

/-- What is found for a source behind the first entry. -/
lemma NewestBySource.lookup_cons (key : SourceId) (value : HealthSample) (rest : NewestBySource)
    (other : SourceId) : List.lookup other ((key, value) :: rest) =
      if other = key then some value else List.lookup other rest := by
  by_cases h : other = key
  · simp [h]
  · rw [List.lookup_cons, if_neg h, beq_eq_false_iff_ne.2 h]

/-- Setting the sample of a source changes what is found for this source only (source
`newest_by_source[...] = ...`). -/
lemma NewestBySource.lookup_set (l : NewestBySource) (source other : SourceId)
    (sample : HealthSample) :
    (l.set source sample).lookup other = if other = source then some sample else l.lookup other := by
  induction l with
  | nil => exact NewestBySource.lookup_cons source sample [] other
  | cons entry rest ih =>
    obtain ⟨key, value⟩ := entry
    unfold NewestBySource.set
    split
    · rw [NewestBySource.lookup_cons]
    · split
      · rename_i same
        obtain rfl : source = key := same
        rw [NewestBySource.lookup_cons, NewestBySource.lookup_cons]
        split <;> rfl
      · rename_i differ
        rw [NewestBySource.lookup_cons, NewestBySource.lookup_cons, ih]
        by_cases h : other = key
        · have ne : ¬ other = source := fun same => differ (same.symm.trans h)
          rw [if_pos h, if_neg ne, if_pos h]
        · rw [if_neg h, if_neg h]

/-- The sources after a sample is set. -/
lemma NewestBySource.mem_set {entry : SourceId × HealthSample}
    (member : entry ∈ l.set source sample) : entry = (source, sample) ∨ entry ∈ l := by
  induction l with
  | nil => exact .inl (List.mem_singleton.1 member)
  | cons head rest ih =>
    unfold NewestBySource.set at member
    split at member
    · exact List.mem_cons.1 member
    · split at member
      · exact (List.mem_cons.1 member).imp_right (List.mem_cons_of_mem _)
      · obtain rfl | member := List.mem_cons.1 member
        · exact .inr List.mem_cons_self
        · exact (ih member).imp_right (List.mem_cons_of_mem _)

/-- Setting a sample keeps the order of the sources (source `std::map`). -/
lemma NewestBySource.pairwise_set (sorted : l.Pairwise fun a b => a.1 < b.1) :
    (l.set source sample).Pairwise fun a b => a.1 < b.1 := by
  induction l with
  | nil => exact List.pairwise_singleton _ _
  | cons head rest ih =>
    have parts := List.pairwise_cons.1 sorted
    unfold NewestBySource.set
    split
    · rename_i before
      refine List.pairwise_cons.2 ⟨fun entry member => ?_, sorted⟩
      obtain rfl | member := List.mem_cons.1 member
      · exact before
      · exact UInt32.lt_trans before (parts.1 entry member)
    · rename_i notBefore
      split
      · rename_i same
        obtain rfl : source = head.1 := same
        exact List.pairwise_cons.2 ⟨parts.1, parts.2⟩
      · rename_i differ
        refine List.pairwise_cons.2 ⟨fun entry member => ?_, ih parts.2⟩
        obtain rfl | member := NewestBySource.mem_set member
        · exact UInt32.lt_of_le_of_ne (UInt32.not_lt.1 notBefore) fun same => differ same.symm
        · exact parts.1 entry member

/-- The sample of a source in a sorted list. -/
lemma NewestBySource.mem_iff_lookup (sorted : l.Pairwise fun a b => a.1 < b.1) :
    (source, sample) ∈ l ↔ l.lookup source = some sample := by
  induction l with
  | nil => simp
  | cons head rest ih =>
    obtain ⟨key, value⟩ := head
    have parts := List.pairwise_cons.1 sorted
    rw [List.mem_cons, NewestBySource.lookup_cons]
    by_cases h : source = key
    · subst h
      have absent : (source, sample) ∉ rest := fun member =>
        absurd (parts.1 _ member) (UInt32.lt_irrefl _)
      simp [absent, eq_comm]
    · simp [h, ih parts.2]

end Lookup

/-- The sample counts for a source: it is a live one of this source about this incarnation of the
module (source `classify_series`, the first loop). -/
def HealthSample.countsFor (uid : ModuleUid) (incarnation : IncarnationId) (source : SourceId)
    (sample : HealthSample) : Bool :=
  sample.module = uid && sample.incarnation = incarnation && sample.live && sample.source = source

/-- The time a sample was observed, as a number. -/
def HealthSample.wall (sample : HealthSample) : Int := sample.observedAtWallNs.toInt

section Scan

variable {uid : ModuleUid} {incarnation : IncarnationId}

/-- Taking a sample into account (source `classify_series`, the first loop). -/
lemma lookup_scanSample (scan : NewestBySource × Nat) (sample : HealthSample) (source : SourceId) :
    (scanSample uid incarnation scan sample).1.lookup source =
      newer (HealthSample.countsFor uid incarnation source) HealthSample.wall
        (scan.1.lookup source) sample := by
  unfold scanSample newer
  by_cases foreign : sample.module = uid
  · rw [if_neg (not_not.2 foreign)]
    by_cases fenced : sample.incarnation ≠ incarnation ∨ sample.live = false
    · have counts : sample.countsFor uid incarnation source = false := by
        obtain h | h := fenced <;> simp [HealthSample.countsFor, h]
      rw [if_pos fenced, if_pos counts]
    · rw [if_neg fenced]
      rw [not_or, not_not, Bool.not_eq_false] at fenced
      by_cases own : sample.source = source
      · subst own
        have counts : sample.countsFor uid incarnation sample.source = true := by
          simp [HealthSample.countsFor, foreign, fenced]
        rw [if_neg (by simp [counts])]
        split
        · rename_i none
          simp [NewestBySource.lookup_set, none]
        · rename_i existing found
          have order : existing.observedAtWallNs ≤ sample.observedAtWallNs ↔
              existing.wall ≤ sample.wall := Int64.le_iff_toInt_le
          simp only [found]
          by_cases le : existing.wall ≤ sample.wall
          · rw [if_pos (order.2 le), if_pos le, NewestBySource.lookup_set, if_pos rfl]
          · rw [if_neg (mt order.1 le), if_neg le, found]
      · have counts : sample.countsFor uid incarnation source = false := by
          simp [HealthSample.countsFor, own]
        rw [if_pos counts]
        split
        · rw [NewestBySource.lookup_set, if_neg (Ne.symm own)]
        · split
          · rw [NewestBySource.lookup_set, if_neg (Ne.symm own)]
          · rfl
  · rw [if_pos foreign, if_pos (by simp [HealthSample.countsFor, foreign])]

/-- The sample kept for a source is its newest one (source `classify_series`, the first loop). -/
lemma lookup_foldl_scanSample (samples : List HealthSample) (source : SourceId) :
    (samples.foldl (scanSample uid incarnation) ([], 0)).1.lookup source =
      newest (HealthSample.countsFor uid incarnation source) HealthSample.wall samples := by
  have fold (scan : NewestBySource × Nat) :
      (samples.foldl (scanSample uid incarnation) scan).1.lookup source =
        samples.foldl (newer (HealthSample.countsFor uid incarnation source) HealthSample.wall)
          (scan.1.lookup source) := by
    induction samples generalizing scan with
    | nil => rfl
    | cons sample rest ih => rw [List.foldl_cons, ih, lookup_scanSample, List.foldl_cons]
  exact fold ([], 0)

/-- The sources are kept in order (source `std::map`). -/
lemma pairwise_foldl_scanSample (samples : List HealthSample) :
    (samples.foldl (scanSample uid incarnation) ([], 0)).1.Pairwise fun a b => a.1 < b.1 := by
  have fold (scan : NewestBySource × Nat) (sorted : scan.1.Pairwise fun a b => a.1 < b.1) :
      (samples.foldl (scanSample uid incarnation) scan).1.Pairwise fun a b => a.1 < b.1 := by
    induction samples generalizing scan with
    | nil => exact sorted
    | cons sample rest ih =>
      refine ih _ ?_
      unfold scanSample
      split
      · exact sorted
      · split
        · exact sorted
        · split
          · exact NewestBySource.pairwise_set sorted
          · split
            · exact NewestBySource.pairwise_set sorted
            · exact sorted
  exact fold ([], 0) List.Pairwise.nil

/-- The samples kept are the newest ones of their sources (source `classify_series`, the first
loop). -/
lemma mem_foldl_scanSample {samples : List HealthSample} {source : SourceId}
    {sample : HealthSample} :
    (source, sample) ∈ (samples.foldl (scanSample uid incarnation) ([], 0)).1 ↔
      IsNewest (HealthSample.countsFor uid incarnation source) HealthSample.wall samples sample := by
  rw [NewestBySource.mem_iff_lookup (pairwise_foldl_scanSample samples), lookup_foldl_scanSample,
    newest_eq_some_iff]

end Scan

/-- The sample is usable: a measurement that is not too old and not too far in the future (source
`classify_series`, the second loop). -/
def HealthSample.usable (maxAgeNs nowWallNs : WallNs) (maxFutureSkewNs : Int64)
    (sample : HealthSample) : Bool :=
  sample.presence = .present &&
  decide (sample.observedAtWallNs.toInt ≤ nowWallNs.toInt + maxFutureSkewNs.toInt) &&
  decide (sampleAge nowWallNs sample ≤ maxAgeNs.toInt)

/-- A note leaves the fresh values. -/
@[simp] lemma FreshScan.note_freshValues (scan : FreshScan) (reason : String)
    (kind : HealthIssueKind) : (scan.note reason kind).freshValues = scan.freshValues := by
  unfold FreshScan.note
  split <;> rfl

/-- Judging a sample keeps its value when it is usable (source `classify_series`, the second
loop). -/
lemma freshValues_scanFresh (maxAgeNs now : WallNs) (skew : Int64) (scan : FreshScan)
    (sample : HealthSample) : (scanFresh maxAgeNs now skew scan sample).freshValues =
      if sample.usable maxAgeNs now skew = true then scan.freshValues ++ [sample.value]
      else scan.freshValues := by
  unfold scanFresh HealthSample.usable
  cases sample.presence with
  | notAvailable => simp
  | readError => simp
  | notSupported => simp
  | present =>
    by_cases future : now.toInt + skew.toInt < sample.observedAtWallNs.toInt
    · simp [future, Int.not_le.2 future]
    · by_cases old : maxAgeNs.toInt < sampleAge now sample
      · simp [future, old, Int.not_le.2 old]
      · simp [future, old, Int.not_lt.1 future, Int.not_lt.1 old]

/-- The fresh values are the values of the usable samples (source `classify_series`, the second
loop). -/
lemma freshValues_foldl (maxAgeNs now : WallNs) (skew : Int64) (entries : NewestBySource)
    (scan : FreshScan) :
    (entries.foldl (fun scan entry => scanFresh maxAgeNs now skew scan entry.2) scan).freshValues =
      scan.freshValues ++ ((entries.map (·.2)).filter (·.usable maxAgeNs now skew)).map
        (·.value) := by
  induction entries generalizing scan with
  | nil => simp
  | cons entry rest ih =>
    rw [List.foldl_cons, ih, freshValues_scanFresh, List.map_cons, List.filter_cons]
    split <;> simp

/-- A zone is reported only under a threshold, for fresh values that agree (source
`classify_series`). -/
lemma classifySeries_zone {samples : List HealthSample} {threshold : Option HealthThreshold}
    {uid : ModuleUid} {incarnation : IncarnationId} {now : WallNs} {skew : Int64}
    (zone : isThresholdZone (classifySeries samples threshold uid incarnation now skew).state =
      true) :
    ∃ t first rest, threshold = some t ∧
      (((samples.foldl (scanSample uid incarnation) ([], 0)).1.map (·.2)).filter
        (·.usable t.maxAgeNs now skew)).map (·.value) = first :: rest ∧
      ¬ (1 < (first :: rest).length ∧
        t.disagreementTolerance.lt (spread first (first :: rest)) = true) := by
  cases threshold with
  | none =>
    simp only [classifySeries] at zone
    split at zone
    · split at zone <;> cases zone
    · split at zone <;> cases zone
  | some t =>
    have values := freshValues_foldl t.maxAgeNs now skew
      (samples.foldl (scanSample uid incarnation) ([], 0)).1 {}
    simp only [classifySeries] at zone
    split at zone
    · split at zone <;> cases zone
    · split at zone
      · rename_i first rest sample age fresh newest
        split at zone
        · cases zone
        · rename_i agree
          rw [fresh] at values
          exact ⟨t, first, rest, rfl, values.symm, agree⟩
      · split at zone <;> cases zone

/-- The threshold selected for a series is a live one of its metric, for its lane or for the module
(source `select_threshold`). -/
lemma selectThreshold_spec {thresholds : List HealthThreshold} {metric : HealthMetric}
    {lane : UInt16} {threshold : HealthThreshold}
    (selected : selectThreshold thresholds metric lane = some threshold) :
    threshold ∈ thresholds ∧ threshold.live = true ∧ threshold.metric = metric ∧
      (threshold.lane = lane ∨ threshold.lane = kModuleLane) := by
  let Fits (t : HealthThreshold) : Prop := t ∈ thresholds ∧ t.live = true ∧ t.metric = metric ∧
    (t.lane = lane ∨ t.lane = kModuleLane)
  have kept (best : Option HealthThreshold × Option HealthThreshold)
      (fits : ∀ t, best.1 = some t ∨ best.2 = some t → Fits t) (x : HealthThreshold)
      (member : x ∈ thresholds) : ∀ t,
        (if x.live = false ∨ x.metric ≠ metric then best
          else if x.lane = lane then (some x, best.2)
          else if x.lane = kModuleLane then (best.1, some x)
          else best).1 = some t ∨
        (if x.live = false ∨ x.metric ≠ metric then best
          else if x.lane = lane then (some x, best.2)
          else if x.lane = kModuleLane then (best.1, some x)
          else best).2 = some t → Fits t := by
    intro t found
    split at found
    · exact fits t found
    · rename_i usable
      rw [not_or, Bool.not_eq_false, not_not] at usable
      split at found
      · rename_i ofLane
        obtain here | there := found
        · obtain rfl := Option.some.inj here
          exact ⟨member, usable.1, usable.2, .inl ofLane⟩
        · exact fits t (.inr there)
      · split at found
        · rename_i ofModule
          obtain there | here := found
          · exact fits t (.inl there)
          · obtain rfl := Option.some.inj here
            exact ⟨member, usable.1, usable.2, .inr ofModule⟩
        · exact fits t found
  have all := List.foldlRecOn thresholds _
    (motive := fun best => ∀ t, best.1 = some t ∨ best.2 = some t → Fits t) (b := (none, none))
    (by simp) kept
  rw [selectThreshold, Option.orElse_eq_orElse, Option.orElse_eq_or, Option.or_eq_some_iff] at selected
  exact all threshold (selected.imp_right (·.2))

end TransceiverRegistry
