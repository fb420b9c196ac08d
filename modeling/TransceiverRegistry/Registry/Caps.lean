import Mathlib.Data.List.Perm.Subperm
import TransceiverRegistry.Registry.Bounds
import TransceiverRegistry.Registry.Samples

/-!
# Caps of a registry

Every cap of the configuration, over what one operation writes. The number of stored samples of a
series is bounded through its counter, which the trim of the module does not correct: the counter is
never below the number of samples, and never above the cap.
-/

namespace TransceiverRegistry

open Lib

section History

variable {α κ : Type} [StdSort] [DecidableEq κ]

/-- After the second trim no group has more entries than its history may have
(source `trim_claims`, the second part). -/
lemma countP_dropExcess_le (group : α → κ) (sequence : α → Sequence) (maxHistory : Nat) (l : List α)
    (g : κ) :
    (dropExcess group sequence maxHistory l).countP (fun a => group a = g) ≤ maxHistory := by
  let members := l.zipIdx.filter fun entry => group entry.1 = g
  let dropped := excessOf group sequence maxHistory l g
  let stays := fun entry : α × Nat => dropped.all fun old => old.2 ≠ entry.2
  have kept : (dropExcess group sequence maxHistory l).countP (fun a => group a = g) =
      members.countP stays := by
    rw [dropExcess, List.countP_map, List.countP_filter, List.countP_filter]
    refine List.countP_congr fun entry _ => ?_
    simp only [Function.comp_apply, Bool.and_eq_true, decide_eq_true_eq]
    constructor
    · rintro ⟨own, rest⟩
      rw [own] at rest
      exact ⟨rest, own⟩
    · rintro ⟨rest, own⟩
      rw [own]
      exact ⟨rfl, rest⟩
  have gone : dropped.length ≤ members.countP fun entry => !stays entry := by
    have sub : dropped.Subperm members :=
      (List.take_sublist _ _).subperm.trans (StdSort.perm _ _).subperm
    have all : dropped.countP (fun entry => !stays entry) = dropped.length := by
      refine List.countP_eq_length.2 fun entry member => ?_
      simp only [stays, Bool.not_eq_true', List.all_eq_false, decide_eq_true_eq, not_not]
      exact ⟨entry, member, rfl⟩
    rw [← all]
    exact sub.countP_le _
  have length : dropped.length = min (members.length - maxHistory) members.length := by
    have sorted := (StdSort.perm (fun a b : α × Nat => decide (sequence a.1 < sequence b.1))
      members).length_eq
    rw [← sorted, ← List.length_take, sorted]
    rfl
  have whole := List.length_eq_countP_add_countP stays (l := members)
  simp only [Bool.not_eq_true, Bool.decide_eq_false] at whole
  omega

end History

/-- No counter is below the number of stored samples (source `ModuleRecord::series_counts`). -/
def CountsCover (samples : List HealthSample)
    (counts : Std.ExtTreeMap SeriesKey UInt32 compareSeries) : Prop :=
  ∀ series, countOf samples series ≤ (counts.getD series 0).toNat

/-- No counter is above the cap (source `RegistryConfig::max_samples_per_series`). -/
def CountsWithin (limit : Nat) (counts : Std.ExtTreeMap SeriesKey UInt32 compareSeries) : Prop :=
  ∀ series, (counts.getD series 0).toNat ≤ limit

/-- What trimming some series leaves: their counters within the cap, the other ones as they were. -/
structure SeriesTrim (limit : Nat) (trimmed : List SeriesKey) (before after : SampleTrim) :
    Prop where
  cover : CountsCover after.samples after.seriesCounts
  within : ∀ series ∈ trimmed, (after.seriesCounts.getD series 0).toNat ≤ limit
  others : ∀ series ∉ trimmed, after.seriesCounts[series]? = before.seriesCounts[series]? ∧
    countOf after.samples series = countOf before.samples series

section Samples

variable {limit : Nat} {before between after : SampleTrim} {trimmed trimmed' : List SeriesKey}

/-- Trimming some series after other ones. -/
lemma SeriesTrim.trans (first : SeriesTrim limit trimmed before between)
    (second : SeriesTrim limit trimmed' between after) :
    SeriesTrim limit (trimmed ++ trimmed') before after where
  cover := second.cover
  within series member := by
    by_cases again : series ∈ trimmed'
    · exact second.within series again
    · have here := (List.mem_append.1 member).resolve_right again
      have stays := first.within series here
      rw [Std.ExtTreeMap.getD_eq_getD_getElem?] at stays ⊢
      rw [(second.others series again).1]
      exact stays
  others series absent := by
    rw [List.mem_append, not_or] at absent
    obtain ⟨counts, samples⟩ := first.others series absent.1
    obtain ⟨counts', samples'⟩ := second.others series absent.2
    exact ⟨counts'.trans counts, samples'.trans samples⟩

/-- A sample and its count are taken away (source `trim_samples`, one round of the loop over one
entry). -/
lemma CountsCover.evict {trim : SampleTrim} {series : SeriesKey} {count : Nat}
    (cover : CountsCover trim.samples trim.seriesCounts) (small : count < 2 ^ 32)
    (some : trim.samples.any (·.inSeries series) = true)
    (held : countOf trim.samples series ≤ count + 1) :
    CountsCover (trim.samples.eraseP (·.inSeries series))
      (trim.seriesCounts.insert series (UInt32.ofNat count)) := by
  intro c
  have less := countOf_eraseP some c
  have old := cover c
  rw [Std.ExtTreeMap.getD_insert]
  by_cases same : series = c
  · subst same
    rw [if_pos (by simp), UInt32.toNat_ofNat_of_lt' small]
    simp only [if_true] at less
    omega
  · rw [if_neg (by simpa using same)]
    rw [if_neg (Ne.symm same)] at less
    omega

/-- Trimming one series (source `trim_samples`, the loop over one entry). -/
lemma seriesTrim_trimSeries (limit : UInt32) {series : SeriesKey} {count : Nat} {trim : SampleTrim}
    (cover : CountsCover trim.samples trim.seriesCounts)
    (own : (trim.seriesCounts.getD series 0).toNat = count)
    (near : count ≤ limit.toNat + countOf trim.samples series) :
    SeriesTrim limit.toNat [series] trim (trimSeries limit series count trim) := by
  induction count generalizing trim with
  | zero =>
    refine ⟨cover, fun c member => ?_, fun _ _ => ⟨rfl, rfl⟩⟩
    rw [List.mem_singleton.1 member]
    exact own.le.trans (Nat.zero_le _)
  | succ count ih =>
    unfold trimSeries
    by_cases exceeds : limit.toNat < count + 1
    · have some := any_inSeries (by omega : 0 < countOf trim.samples series)
      have less := countOf_eraseP some
      have small : count < 2 ^ 32 := by
        have bound := (trim.seriesCounts.getD series 0).toNat_lt
        omega
      let shorter : SampleTrim := ⟨trim.samples.eraseP (·.inSeries series),
        trim.seriesCounts.insert series (UInt32.ofNat count), trim.droppedSamples + 1⟩
      have rest : SeriesTrim limit.toNat [series] shorter
          (trimSeries limit series count shorter) := by
        refine ih (cover.evict small some (own ▸ cover series)) ?_ ?_
        · rw [Std.ExtTreeMap.getD_insert_self, UInt32.toNat_ofNat_of_lt' small]
        · have own := less series
          rw [if_pos rfl] at own
          show count ≤ limit.toNat + countOf (trim.samples.eraseP (·.inSeries series)) series
          omega
      rw [if_pos ⟨exceeds, some⟩]
      refine ⟨rest.cover, rest.within, fun c absent => ?_⟩
      have other : c ≠ series := fun same => absent (List.mem_singleton.2 same)
      obtain ⟨counts, samples⟩ := rest.others c absent
      have same := less c
      rw [if_neg other, Nat.add_zero] at same
      refine ⟨counts.trans ?_, samples.trans same⟩
      rw [Std.ExtTreeMap.getElem?_insert, if_neg (by simpa using other.symm)]
    · rw [if_neg fun both => exceeds both.1]
      refine ⟨cover, fun c member => ?_, fun _ _ => ⟨rfl, rfl⟩⟩
      rw [List.mem_singleton.1 member, own]
      exact Nat.not_lt.1 exceeds

/-- Trimming several series, with their counts as they were at the beginning (source `trim_samples`,
the loop over `series_counts`). -/
lemma seriesTrim_foldl (limit : UInt32) (entries : List (SeriesKey × UInt32)) {trim : SampleTrim}
    (cover : CountsCover trim.samples trim.seriesCounts)
    (distinct : (entries.map Prod.fst).Nodup)
    (known : ∀ entry ∈ entries, trim.seriesCounts[entry.1]? = some entry.2)
    (near : ∀ entry ∈ entries, entry.2.toNat ≤ limit.toNat + countOf trim.samples entry.1) :
    SeriesTrim limit.toNat (entries.map Prod.fst) trim (entries.foldl (fun acc entry =>
      trimSeries limit entry.1 entry.2.toNat acc) trim) := by
  induction entries generalizing trim with
  | nil => exact ⟨cover, fun _ member => (List.not_mem_nil member).elim, fun _ _ => ⟨rfl, rfl⟩⟩
  | cons entry rest ih =>
    rw [List.map_cons, List.nodup_cons] at distinct
    have own : (trim.seriesCounts.getD entry.1 0).toNat = entry.2.toNat := by
      rw [Std.ExtTreeMap.getD_eq_getD_getElem?, known entry List.mem_cons_self]
      rfl
    have first := seriesTrim_trimSeries limit cover own (near entry List.mem_cons_self)
    have apart {other : SeriesKey × UInt32} (member : other ∈ rest) : other.1 ∉ [entry.1] :=
      fun same => distinct.1 (List.mem_singleton.1 same ▸ List.mem_map_of_mem member)
    refine first.trans (ih first.cover distinct.2 (fun other member => ?_) fun other member => ?_)
    · rw [(first.others _ (apart member)).1, known other (List.mem_cons_of_mem _ member)]
    · rw [(first.others _ (apart member)).2]
      exact near other (List.mem_cons_of_mem _ member)

/-- One more sample of a series is counted (source `Registry::ingest_health`, the push). -/
lemma CountsCover.push {samples : List HealthSample} {sample : HealthSample}
    {counts : Std.ExtTreeMap SeriesKey UInt32 compareSeries} (cover : CountsCover samples counts)
    (room : (counts.getD (seriesKey sample.metric sample.lane) 0).toNat < 2 ^ 32 - 1) :
    CountsCover (samples ++ [sample])
      (countSample counts (seriesKey sample.metric sample.lane)) := by
  intro c
  have pushed : countOf (samples ++ [sample]) c =
      countOf samples c + if seriesKey sample.metric sample.lane = c then 1 else 0 := by
    simp [countOf, List.countP_append, List.countP_cons, HealthSample.inSeries]
  have old := cover c
  rw [pushed, countSample, Std.ExtTreeMap.getD_insert]
  by_cases here : seriesKey sample.metric sample.lane = c
  · rw [if_pos here, if_pos (by simp [here]), here, UInt32.toNat_add, UInt32.toNat_one]
    rw [here] at room
    omega
  · rw [if_neg here, if_neg (by simpa using here)]
    exact old

/-- An ingestion leaves no counter below the number of samples and none above the cap
(source `Registry::ingest_health`, `trim_samples`). -/
lemma trimSamples_capped {config : RegistryConfig} {samples : List HealthSample}
    {stored : HealthSample} {counts : Std.ExtTreeMap SeriesKey UInt32 compareSeries}
    {dropped : UInt64} {trim : SampleTrim} (cover : CountsCover samples counts)
    (within : CountsWithin config.maxSamplesPerSeries.toNat counts)
    (room : config.maxSamplesPerSeries.toNat < 2 ^ 32 - 1)
    (trims : trim = trimSamples config ⟨samples ++ [stored],
      countSample counts (seriesKey stored.metric stored.lane), dropped⟩) :
    CountsCover trim.samples trim.seriesCounts ∧
      CountsWithin config.maxSamplesPerSeries.toNat trim.seriesCounts := by
  let pushed : SampleTrim := ⟨samples ++ [stored],
    countSample counts (seriesKey stored.metric stored.lane), dropped⟩
  have covered : CountsCover pushed.samples pushed.seriesCounts :=
    cover.push ((within _).trans_lt room)
  let bySeries := pushed.seriesCounts.toList.foldl (fun acc entry =>
    trimSeries config.maxSamplesPerSeries entry.1 entry.2.toNat acc) pushed
  have known : ∀ entry ∈ pushed.seriesCounts.toList,
      pushed.seriesCounts[entry.1]? = some entry.2 :=
    fun entry member => Std.ExtTreeMap.mem_toList_iff_getElem?_eq_some.1 member
  have near : ∀ entry ∈ pushed.seriesCounts.toList,
      entry.2.toNat ≤ config.maxSamplesPerSeries.toNat + countOf pushed.samples entry.1 := by
    intro entry member
    obtain ⟨here, value⟩ | ⟨_, old⟩ := getElem?_insert_iff.1 (known entry member)
    · have one : 1 ≤ countOf pushed.samples entry.1 := by
        rw [← here]
        simp [pushed, countOf, List.countP_append, HealthSample.inSeries]
      have small := within (seriesKey stored.metric stored.lane)
      rw [← value, UInt32.toNat_add, UInt32.toNat_one]
      omega
    · have small := within entry.1
      rw [Std.ExtTreeMap.getD_eq_getD_getElem?, old] at small
      exact Nat.le_add_right_of_le small
  have trimmed : SeriesTrim config.maxSamplesPerSeries.toNat pushed.seriesCounts.keys pushed
      bySeries := by
    rw [← Std.ExtTreeMap.map_fst_toList_eq_keys]
    refine seriesTrim_foldl _ _ covered ?_ known near
    rw [Std.ExtTreeMap.map_fst_toList_eq_keys]
    exact Std.ExtTreeMap.nodup_keys
  rw [trims]
  refine ⟨fun series => ?_, fun series => ?_⟩
  · exact ((List.drop_sublist _ _).countP_le).trans (trimmed.cover series)
  · by_cases member : series ∈ pushed.seriesCounts.keys
    · exact trimmed.within series member
    · have none : bySeries.seriesCounts[series]? = none := by
        rw [(trimmed.others series member).1]
        exact Std.ExtTreeMap.getElem?_eq_none fun found => member (Std.ExtTreeMap.mem_keys.2 found)
      show (bySeries.seriesCounts.getD series 0).toNat ≤ _
      rw [Std.ExtTreeMap.getD_eq_getD_getElem?, none]
      exact Nat.zero_le _

end Samples

/-- A module is within the caps (source `RegistryConfig`). -/
structure ModuleCaps (config : RegistryConfig) (record : ModuleRecord) : Prop where
  bounds : ModuleBounds config record
  series : ∀ series, countOf record.samples series ≤ config.maxSamplesPerSeries.toNat
  lifecycle : record.lifecycle.length ≤ config.maxLifecycleHistory.toNat
  history : ∀ group, record.claims.countP (fun claim => claimGroup claim = group) ≤
    config.maxClaimHistory.toNat

/-- A registry is within the caps (source `RegistryConfig`). -/
structure Caps (config : RegistryConfig) (s : State) : Prop where
  sources : s.sources.size ≤ config.maxSources.toNat
  modules : s.modules.size ≤ config.maxModules.toNat
  ports : s.ports.size ≤ config.maxPorts.toNat
  rules : s.rules.size ≤ config.maxRules.toNat
  thresholds : s.thresholds.countP (·.live) ≤ config.maxThresholds.toNat
  eachModule : ∀ (uid : ModuleUid) (record : ModuleRecord),
    s.modules[uid]? = some record → ModuleCaps config record
  eachPort : ∀ (key : Bytes) (record : PortRecord), s.ports[key]? = some record →
    record.declarations.length ≤ config.maxDeclarationsPerPort.toNat

/-- What is kept of a module: the series are bounded by their counters, unless the cap is the
largest counter. -/
structure ModuleBooks (config : RegistryConfig) (record : ModuleRecord) : Prop where
  bounds : ModuleBounds config record
  counts : config.maxSamplesPerSeries.toNat < 2 ^ 32 - 1 →
    CountsCover record.samples record.seriesCounts ∧
      CountsWithin config.maxSamplesPerSeries.toNat record.seriesCounts
  lifecycle : record.lifecycle.length ≤ config.maxLifecycleHistory.toNat
  history : ∀ group, record.claims.countP (fun claim => claimGroup claim = group) ≤
    config.maxClaimHistory.toNat

/-- What is kept of a registry: the sources are stored under their ids. -/
structure Books (config : RegistryConfig) (s : State) : Prop where
  keyed : Keyed SourceRecord.id s.sources
  sources : s.sources.size ≤ config.maxSources.toNat
  modules : s.modules.size ≤ config.maxModules.toNat
  ports : s.ports.size ≤ config.maxPorts.toNat
  rules : s.rules.size ≤ config.maxRules.toNat
  thresholds : s.thresholds.countP (·.live) ≤ config.maxThresholds.toNat
  eachModule : ∀ (uid : ModuleUid) (record : ModuleRecord),
    s.modules[uid]? = some record → ModuleBooks config record
  eachPort : ∀ (key : Bytes) (record : PortRecord), s.ports[key]? = some record →
    record.declarations.length ≤ config.maxDeclarationsPerPort.toNat

variable {config : RegistryConfig} {s s' next : State} {generation : Generation}
  {sequence : Sequence} {old new : ModuleRecord}

/-- A counter that is never below the number of samples bounds it; the largest counter is a bound of
all samples of a module. -/
lemma ModuleBooks.caps (books : ModuleBooks config old) : ModuleCaps config old where
  bounds := books.bounds
  series series := by
    by_cases room : config.maxSamplesPerSeries.toNat < 2 ^ 32 - 1
    · obtain ⟨cover, within⟩ := books.counts room
      exact (cover series).trans (within series)
    · have all := books.bounds.samples
      have small := config.maxSamplesPerModule.toNat_lt
      have some := List.countP_le_length (p := (·.inSeries series)) (l := old.samples)
      rw [countOf]
      omega
  lifecycle := books.lifecycle
  history := books.history

/-- What is kept implies the caps. -/
lemma Books.caps (books : Books config s) : Caps config s where
  sources := books.sources
  modules := books.modules
  ports := books.ports
  rules := books.rules
  thresholds := books.thresholds
  eachModule uid record found := (books.eachModule uid record found).caps
  eachPort := books.eachPort

/-- A fresh registry is within the caps. -/
lemma Books.initial : Books config State.initial where
  keyed := Keyed.empty
  sources := by simp [State.initial]
  modules := by simp [State.initial]
  ports := by simp [State.initial]
  rules := by simp [State.initial]
  thresholds := Nat.zero_le _
  eachModule uid record found := by simp [State.initial] at found
  eachPort key record found := by simp [State.initial] at found

/-- A bounded history is within its bound (source the loops that erase `begin()`). -/
lemma trimLifecycle_length_le (events : List LifecycleEvent) :
    (trimLifecycle config events).length ≤ config.maxLifecycleHistory.toNat := by
  rw [trimLifecycle, List.length_drop]
  omega

section Steps

variable [StdSort]

/-- Trimmed claims have short histories (source `trim_claims`). -/
lemma trimClaims_history_le {claims trimmed : List IdentityClaim} {maxTotal maxHistory : UInt32}
    (h : trimClaims claims maxTotal maxHistory = .ok trimmed)
    (group : IdentityField × Bytes × SourceId × SourceEpoch) :
    trimmed.countP (fun claim => claimGroup claim = group) ≤ maxHistory.toNat := by
  simp only [trimClaims, bind_eq_ok] at h
  obtain ⟨kept, _, e⟩ := h
  cases e
  exact countP_dropExcess_le claimGroup (·.sequence) maxHistory.toNat kept group

/-- A record written over one within the caps is within them. -/
lemma ModuleBooks.rewrite (books : ModuleBooks config old) (rewrites : Rewrites config old new) :
    ModuleBooks config new where
  bounds := books.bounds.rewrite rewrites
  counts room := by
    obtain ⟨samples, counts⟩ | ⟨stored, dropped, trim, trims, samples, counts⟩ := rewrites.samples
    · rw [samples, counts]
      exact books.counts room
    · obtain ⟨cover, within⟩ := books.counts room
      rw [samples, counts]
      exact trimSamples_capped cover within room trims
  lifecycle := by
    obtain same | ⟨events, trim⟩ := rewrites.lifecycle
    · rw [same]
      exact books.lifecycle
    · rw [trim]
      exact trimLifecycle_length_le events
  history group := by
    obtain same | ⟨claims, trim⟩ := rewrites.claims
    · rw [same]
      exact books.history group
    · exact trimClaims_history_le trim group

omit [StdSort] in
/-- The books of the modules are kept when one of them is written. -/
lemma moduleBooks_insert {modules : ModuleTable} {uid : ModuleUid}
    (books : ∀ (uid : ModuleUid) (record : ModuleRecord), modules[uid]? = some record →
      ModuleBooks config record) (written : ModuleBooks config new) :
    ∀ (uid' : ModuleUid) (record : ModuleRecord), (modules.insert uid new)[uid']? = some record →
      ModuleBooks config record := by
  intro uid' record found
  obtain ⟨_, rfl⟩ | ⟨_, found⟩ := getElem?_insert_iff.1 found
  · exact written
  · exact books uid' record found

/-- A module that is added is within the caps (source `Registry::register_module`, the first
branch). -/
lemma moduleBooks_of_empty {blank : ModuleRecord} (empty : blank.claims = [] ∧
    blank.declarations = [] ∧ blank.samples = [] ∧ blank.seriesCounts = ∅)
    (rewrites : Rewrites config blank new)
    (history : ∃ events, new.lifecycle = trimLifecycle config events) : ModuleBooks config new := by
  obtain ⟨claims, declarations, samples, counts⟩ := empty
  have start : ModuleBooks config { blank with lifecycle := [] } := by
    refine ⟨⟨?_, ?_, ?_⟩, fun _ => ⟨fun series => ?_, fun series => ?_⟩, Nat.zero_le _,
      fun group => ?_⟩
    · simp [claims]
    · simp [declarations]
    · simp [samples]
    · simp [samples, countOf]
    · simp [counts]
    · simp [claims]
  exact start.rewrite ⟨rewrites.uid, rewrites.key, rewrites.claims, rewrites.declarations,
    rewrites.samples, .inr history⟩

omit [StdSort] in
/-- Retiring thresholds puts none in force (source `Registry::publish_threshold`). -/
lemma countP_trimThresholds_le (threshold : HealthThreshold) (records : List ThresholdRecord) :
    (trimThresholds config threshold records).countP (·.live) ≤ records.countP (·.live) := by
  rw [trimThresholds]
  split
  · exact List.eraseP_sublist.countP_le
  · exact Nat.le_refl _

/-- What an operation does to the tables keeps the caps. -/
lemma Books.tableStep (books : Books config s)
    (taken : TableStep config s generation sequence next) : Books config next := by
  cases taken with
  | @renewSource id record renewed found same later =>
    obtain rfl : record.id = id := books.keyed id record found
    refine { books with keyed := books.keyed.insert same.1, sources := ?_ }
    rw [size_insert_of_mem (mem_of_getElem? found)]
    exact books.sources
  | addSource unnamed room ids own =>
    refine { books with keyed := books.keyed.insert own, sources := ?_ }
    exact Std.ExtTreeMap.size_insert_le.trans room
  | addModule unnamed room own empty rewrites history =>
    have written := moduleBooks_of_empty empty rewrites history
    exact { books with
      modules := Std.ExtTreeMap.size_insert_le.trans room
      eachModule := moduleBooks_insert books.eachModule written }
  | setModule found rewrites =>
    have written := (books.eachModule _ _ found).rewrite rewrites
    refine { books with modules := ?_, eachModule := moduleBooks_insert books.eachModule written }
    rw [size_insert_of_mem (mem_of_getElem? found)]
    exact books.modules
  | slots => exact { books with }
  | port live located kept trim =>
    refine { books with ports := ?_, eachPort := fun key' record' found => ?_ }
    · obtain found | ⟨_, room, _⟩ := located
      · rw [size_insert_of_mem (mem_of_getElem? found)]
        exact books.ports
      · exact Std.ExtTreeMap.size_insert_le.trans room
    · obtain ⟨_, rfl⟩ | ⟨_, found⟩ := getElem?_insert_iff.1 found
      · exact eraseSuperseded_length_le trim
      · exact books.eachPort key' record' found
  | threshold room =>
    refine { books with thresholds := (countP_trimThresholds_le _ _).trans ?_ }
    rw [List.countP_append]
    exact (Nat.add_le_add_left List.countP_le_length _).trans room
  | addRule room own =>
    exact { books with rules := Std.ExtTreeMap.size_insert_le.trans room }
  | setRule found same =>
    refine { books with rules := ?_ }
    rw [size_insert_of_mem (mem_of_getElem? found)]
    exact books.rules

/-- A step keeps the caps (source `RegistryImpl::mutate`). -/
lemma Books.step {call : Call} (books : Books config s)
    (taken : TransceiverRegistry.step config s call = some s') : Books config s' := by
  obtain ⟨next, written, rfl⟩ := step_tableStep taken
  have kept : Books config next := Books.tableStep (s := (nextSequence s).2) { books with } written
  exact { kept with }

end Steps

end TransceiverRegistry
