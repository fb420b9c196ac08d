import TransceiverRegistry.Registry.ModuleStep

/-!
# Counting samples

The registry counts the stored samples of each series beside the samples themselves. The trim of a
series corrects its counter, the trim of the module does not: the counters are exact as long as the
module trim never has to evict, and a counter that is too high makes the registry evict a sample
that the bound of its series allows.
-/

namespace TransceiverRegistry

open Lib

/-- The number of stored samples of a series. -/
def countOf (samples : List HealthSample) (series : SeriesKey) : Nat :=
  samples.countP (·.inSeries series)

/-- The counters are the numbers of stored samples (source `ModuleRecord::series_counts`). -/
def CountsExact (samples : List HealthSample)
    (counts : Std.ExtTreeMap SeriesKey UInt32 compareSeries) : Prop :=
  ∀ series, (counts.getD series 0).toNat = countOf samples series

/-- What trimming some series leaves: exact counters, no series above the bound, everything else as
it was, and the last sample. -/
structure Trims (limit : Nat) (trimmed : List SeriesKey) (before after : SampleTrim) : Prop where
  exact : CountsExact after.samples after.seriesCounts
  counts : ∀ series, countOf after.samples series =
    if series ∈ trimmed then min (countOf before.samples series) limit
    else countOf before.samples series
  others : ∀ series ∉ trimmed, after.seriesCounts[series]? = before.seriesCounts[series]?
  last : 1 ≤ limit → ∀ early sample, before.samples = early ++ [sample] →
    ∃ kept, after.samples = kept ++ [sample]

variable {limit : Nat} {before between after : SampleTrim} {trimmed trimmed' : List SeriesKey}

/-- Trimming no series. -/
lemma Trims.refl (exact : CountsExact before.samples before.seriesCounts) :
    Trims limit [] before before where
  exact := exact
  counts series := by simp
  others series _ := rfl
  last _ early sample parts := ⟨early, parts⟩

/-- Trimming some series after other ones. -/
lemma Trims.trans (first : Trims limit trimmed before between)
    (second : Trims limit trimmed' between after) :
    Trims limit (trimmed ++ trimmed') before after where
  exact := second.exact
  counts series := by
    rw [second.counts, first.counts]
    simp only [List.mem_append]
    split <;> split <;> simp_all
  others series absent := by
    rw [List.mem_append, not_or] at absent
    rw [second.others series absent.2, first.others series absent.1]
  last room early sample parts := by
    obtain ⟨kept, parts'⟩ := first.last room early sample parts
    exact second.last room kept sample parts'

/-- A sample is in one series only (source `trim_samples`, the comparison in the loop). -/
lemma inSeries_unique {sample : HealthSample} {a b : SeriesKey} (ha : sample.inSeries a = true)
    (hb : sample.inSeries b = true) : a = b := by
  simp only [HealthSample.inSeries, decide_eq_true_eq] at ha hb
  exact ha.symm.trans hb

/-- Evicting the oldest sample of a series counts it down and no other one. -/
lemma countOf_eraseP {samples : List HealthSample} {series : SeriesKey}
    (some : samples.any (·.inSeries series) = true) (c : SeriesKey) :
    countOf (samples.eraseP (·.inSeries series)) c + (if c = series then 1 else 0) =
      countOf samples c := by
  obtain ⟨x, member, found⟩ := List.any_eq_true.1 some
  obtain ⟨a, front, back, _, belongs, parts, erased⟩ := List.exists_of_eraseP (p := (·.inSeries series)) member found
  rw [erased, parts]
  simp only [countOf, List.countP_append, List.countP_cons]
  have same : (if c = series then 1 else 0) = if a.inSeries c = true then 1 else 0 := by
    by_cases h : c = series
    · rw [if_pos h, if_pos (h ▸ belongs)]
    · rw [if_neg h, if_neg fun other => h (inSeries_unique other belongs)]
  omega

/-- A series with samples has one that can be evicted. -/
lemma any_inSeries {samples : List HealthSample} {series : SeriesKey}
    (positive : 0 < countOf samples series) : samples.any (·.inSeries series) = true := by
  obtain ⟨a, member, belongs⟩ := List.countP_pos_iff.1 positive
  exact List.any_eq_true.2 ⟨a, member, belongs⟩

/-- Evicting from a series that has more than one sample keeps the last sample. -/
lemma eraseP_concat {early : List HealthSample} {sample : HealthSample} {series : SeriesKey}
    (two : 2 ≤ countOf (early ++ [sample]) series) :
    (early ++ [sample]).eraseP (·.inSeries series) =
      early.eraseP (·.inSeries series) ++ [sample] := by
  have one : countOf [sample] series ≤ 1 := by
    have := List.countP_le_length (p := (·.inSeries series)) (l := [sample])
    simpa [countOf] using this
  have split : countOf (early ++ [sample]) series = countOf early series + countOf [sample] series :=
    List.countP_append
  obtain ⟨a, member, belongs⟩ := List.countP_pos_iff.1 (show 0 < countOf early series by omega)
  exact List.eraseP_append_left (p := (·.inSeries series)) belongs _ member

/-- Evicting the oldest sample of a series and counting it down keeps the counters exact (source
`trim_samples`, one round of the loop over one entry). -/
lemma CountsExact.evict {trim : SampleTrim} {series : SeriesKey} {count : Nat}
    (exact : CountsExact trim.samples trim.seriesCounts)
    (held : countOf trim.samples series = count + 1) :
    CountsExact (trim.samples.eraseP (·.inSeries series))
      (trim.seriesCounts.insert series (UInt32.ofNat count)) := by
  intro c
  have less := countOf_eraseP (any_inSeries (by omega : 0 < countOf trim.samples series)) c
  have old := exact c
  rw [Std.ExtTreeMap.getD_insert]
  by_cases h : series = c
  · subst h
    have small := (trim.seriesCounts.getD series 0).toNat_lt
    rw [if_pos (by simp), UInt32.toNat_ofNat_of_lt' (by simp only [UInt32.size]; omega)]
    simp only [if_true] at less
    omega
  · rw [if_neg (by simpa using h), old]
    rw [if_neg (Ne.symm h)] at less
    omega

/-- Trimming one series (source `trim_samples`, the loop over one entry). -/
lemma trims_trimSeries (limit : UInt32) {series : SeriesKey} {count : Nat} {trim : SampleTrim}
    (exact : CountsExact trim.samples trim.seriesCounts)
    (held : countOf trim.samples series = count) :
    Trims limit.toNat [series] trim (trimSeries limit series count trim) := by
  induction count generalizing trim with
  | zero =>
    refine ⟨exact, fun c => ?_, fun _ _ => rfl, fun _ early sample parts => ⟨early, parts⟩⟩
    by_cases h : c = series
    · subst h
      simp [trimSeries, held]
    · simp [trimSeries, h]
  | succ count ih =>
    unfold trimSeries
    by_cases exceeds : limit.toNat < count + 1
    · have some := any_inSeries (by omega : 0 < countOf trim.samples series)
      have less := countOf_eraseP some
      have fewer : countOf (trim.samples.eraseP (·.inSeries series)) series = count := by
        have := less series
        rw [if_pos rfl] at this
        omega
      let shorter : SampleTrim := ⟨trim.samples.eraseP (·.inSeries series),
        trim.seriesCounts.insert series (UInt32.ofNat count), trim.droppedSamples + 1⟩
      have rest : Trims limit.toNat [series] shorter (trimSeries limit series count shorter) :=
        ih (exact.evict held) fewer
      rw [if_pos ⟨exceeds, some⟩]
      refine ⟨rest.exact, fun c => ?_, fun c absent => ?_, fun room early sample parts => ?_⟩
      · rw [rest.counts]
        have := less c
        by_cases h : c = series
        · subst h
          rw [if_pos (by simp), if_pos (by simp), held]
          show min (countOf (trim.samples.eraseP (·.inSeries c)) c) limit.toNat = _
          omega
        · simpa [h] using this
      · have other : series ≠ c := fun same => absurd (List.mem_singleton.2 same.symm) absent
        rw [rest.others c absent, Std.ExtTreeMap.getElem?_insert, if_neg (by simpa using other)]
      · refine rest.last room (early.eraseP (·.inSeries series)) sample ?_
        show trim.samples.eraseP (·.inSeries series) = _
        rw [parts] at held ⊢
        exact eraseP_concat (by omega)
    · rw [if_neg fun both => exceeds both.1]
      refine ⟨exact, fun c => ?_, fun _ _ => rfl, fun _ early sample parts => ⟨early, parts⟩⟩
      by_cases h : c = series
      · subst h
        simp only [List.mem_singleton, if_true]
        omega
      · simp [h]

/-- Trimming several series, with their counts as they were at the beginning (source `trim_samples`,
the loop over `series_counts`). -/
lemma trims_foldl (limit : UInt32) (entries : List (SeriesKey × UInt32)) {trim : SampleTrim}
    (exact : CountsExact trim.samples trim.seriesCounts)
    (distinct : (entries.map Prod.fst).Nodup)
    (known : ∀ entry ∈ entries, trim.seriesCounts[entry.1]? = some entry.2) :
    Trims limit.toNat (entries.map Prod.fst) trim (entries.foldl (fun acc entry =>
      trimSeries limit entry.1 entry.2.toNat acc) trim) := by
  induction entries generalizing trim with
  | nil => exact .refl exact
  | cons entry rest ih =>
    rw [List.map_cons, List.nodup_cons] at distinct
    have own : countOf trim.samples entry.1 = entry.2.toNat := by
      rw [← exact, Std.ExtTreeMap.getD_eq_getD_getElem?, known entry List.mem_cons_self]
      rfl
    have first := trims_trimSeries limit exact own
    refine first.trans (ih first.exact distinct.2 fun other member => ?_)
    rw [first.others, known other (List.mem_cons_of_mem _ member)]
    rw [List.mem_singleton]
    exact fun same => distinct.1 (same ▸ List.mem_map_of_mem member)

/-- Trimming every series (source `trim_samples`, the first loop). -/
lemma trims_bySeries (limit : UInt32) {trim : SampleTrim}
    (exact : CountsExact trim.samples trim.seriesCounts) :
    ∃ all, Trims limit.toNat all trim (trim.seriesCounts.toList.foldl (fun acc entry =>
      trimSeries limit entry.1 entry.2.toNat acc) trim) ∧
      ∀ series ∉ all, countOf trim.samples series = 0 := by
  refine ⟨_, trims_foldl limit trim.seriesCounts.toList exact ?_ ?_, ?_⟩
  · rw [List.Nodup, List.pairwise_map]
    exact Std.ExtTreeMap.distinct_keys_toList.imp fun differ same => differ (by simp [same])
  · rintro ⟨series, count⟩ member
    exact Std.ExtTreeMap.mem_toList_iff_getElem?_eq_some.1 member
  · intro series absent
    have none : trim.seriesCounts[series]? = none := by
      cases found : trim.seriesCounts[series]? with
      | none => rfl
      | some count =>
        refine absurd (List.mem_map.2 ⟨(series, count), ?_, rfl⟩) absent
        exact Std.ExtTreeMap.mem_toList_iff_getElem?_eq_some.2 found
    rw [← exact, Std.ExtTreeMap.getD_eq_getD_getElem?, none]
    rfl

/-- One more sample of a series is counted (source `Registry::ingest_health`, the push). -/
lemma CountsExact.push {samples : List HealthSample} {sample : HealthSample}
    {counts : Std.ExtTreeMap SeriesKey UInt32 compareSeries} (exact : CountsExact samples counts)
    (room : countOf samples (seriesKey sample.metric sample.lane) ≠ 0xFFFFFFFF) :
    CountsExact (samples ++ [sample])
      (countSample counts (seriesKey sample.metric sample.lane)) := by
  intro c
  have pushed : countOf (samples ++ [sample]) c =
      countOf samples c + if seriesKey sample.metric sample.lane = c then 1 else 0 := by
    simp [countOf, List.countP_append, List.countP_cons, HealthSample.inSeries]
  rw [pushed, ← exact c, countSample, Std.ExtTreeMap.getD_insert]
  by_cases h : seriesKey sample.metric sample.lane = c
  · rw [← exact] at room
    have small := (counts.getD c 0).toNat_lt
    rw [h] at room
    rw [if_pos (by simp [h]), if_pos h, h, UInt32.toNat_add, UInt32.toNat_one]
    omega
  · rw [if_neg (by simpa using h), if_neg h, Nat.add_zero]

/-- What an ingestion leaves of the samples of a module that does not have to evict a sample of
another series: exact counters, no series above its bound, and the new sample (source
`Registry::ingest_health`, `trim_samples`). -/
structure Ingested (config : RegistryConfig) (samples : List HealthSample) (stored : HealthSample)
    (after : SampleTrim) : Prop where
  exact : CountsExact after.samples after.seriesCounts
  bounded : after.samples.length ≤ config.maxSamplesPerModule.toNat
  counts : ∀ series, countOf after.samples series =
    min (countOf (samples ++ [stored]) series) config.maxSamplesPerSeries.toNat
  kept : 1 ≤ config.maxSamplesPerSeries.toNat → stored ∈ after.samples

/-- The module has room for one more sample, or the series of the sample is at its bound. -/
def HasRoom (config : RegistryConfig) (samples : List HealthSample) (series : SeriesKey) : Prop :=
  (samples.length < config.maxSamplesPerModule.toNat ∨
    config.maxSamplesPerSeries.toNat ≤ countOf samples series) ∧
  countOf samples series ≠ 0xFFFFFFFF

instance (config : RegistryConfig) (samples : List HealthSample) (series : SeriesKey) :
    Decidable (HasRoom config samples series) := by
  unfold HasRoom
  infer_instance

/-- An ingestion with room evicts by series only (source `Registry::ingest_health`,
`trim_samples`). -/
lemma ingested_trimSamples {config : RegistryConfig} {samples : List HealthSample}
    {stored : HealthSample} {counts : Std.ExtTreeMap SeriesKey UInt32 compareSeries}
    {dropped : UInt64} (exact : CountsExact samples counts)
    (fits : samples.length ≤ config.maxSamplesPerModule.toNat)
    (room : HasRoom config samples (seriesKey stored.metric stored.lane)) :
    Ingested config samples stored (trimSamples config ⟨samples ++ [stored],
      countSample counts (seriesKey stored.metric stored.lane), dropped⟩) := by
  let pushed : SampleTrim := ⟨samples ++ [stored],
    countSample counts (seriesKey stored.metric stored.lane), dropped⟩
  have pushedExact : CountsExact pushed.samples pushed.seriesCounts := exact.push room.2
  obtain ⟨all, trims, rest⟩ := trims_bySeries config.maxSamplesPerSeries pushedExact
  let bySeries := pushed.seriesCounts.toList.foldl (fun acc entry =>
    trimSeries config.maxSamplesPerSeries entry.1 entry.2.toNat acc) pushed
  have evicted : ∀ series, countOf bySeries.samples series =
      min (countOf (samples ++ [stored]) series) config.maxSamplesPerSeries.toNat := by
    intro series
    rw [trims.counts]
    split
    · rfl
    · rename_i absent
      have none : countOf (samples ++ [stored]) series = 0 := rest series absent
      show countOf (samples ++ [stored]) series = _
      omega
  have shorter : bySeries.samples.Sublist (samples ++ [stored]) :=
    trimSeries_foldl_sublist _ _ pushed
  have bounded : bySeries.samples.length ≤ config.maxSamplesPerModule.toNat := by
    have all := shorter.length_le
    rw [List.length_append, List.length_singleton] at all
    obtain space | full := room.1
    · omega
    · -- the series of the sample was at its bound, so a sample of it was evicted
      have differ : bySeries.samples ≠ samples ++ [stored] := by
        intro same
        have count := evicted (seriesKey stored.metric stored.lane)
        rw [same] at count
        have more : countOf (samples ++ [stored]) (seriesKey stored.metric stored.lane) =
            countOf samples (seriesKey stored.metric stored.lane) + 1 := by
          simp [countOf, List.countP_append, HealthSample.inSeries]
        omega
      have := mt shorter.eq_of_length differ
      rw [List.length_append, List.length_singleton] at this
      omega
  have trimmed : (trimSamples config pushed).samples = bySeries.samples := by
    show bySeries.samples.drop (bySeries.samples.length - config.maxSamplesPerModule.toNat) = _
    rw [Nat.sub_eq_zero_of_le bounded, List.drop_zero]
  constructor
  · rw [trimmed]
    exact trims.exact
  · rw [trimmed]
    exact bounded
  · intro series
    rw [trimmed, evicted]
  · intro positive
    obtain ⟨kept, parts⟩ := trims.last positive samples stored rfl
    rw [trimmed]
    exact parts ▸ List.mem_append_right kept List.mem_cons_self

/-- The sample a successful ingestion stores in a state (source `Registry::ingest_health`). -/
def ingestedSample (s : State) (clock : Clock) (authority : AuthorityToken) (record : ModuleRecord)
    (sample : HealthSampleInput) : HealthSample :=
  storedSample clock authority (s.generation + 1) s.nextSequence record sample (clock.wallNowNs 0)

/-- Where the samples of a module come from in a step: the module is new, they stay, or one was
ingested. -/
inductive SamplesStep (config : RegistryConfig) (s : State) (call : Call) (uid : ModuleUid)
    (record' : ModuleRecord) : Prop where
  /-- The module was registered for the first time. -/
  | fresh (absent : s.modules[uid]? = none) (samples : record'.samples = [])
      (counts : record'.seriesCounts = ∅)
  /-- The samples stay. -/
  | stay {record : ModuleRecord} (found : s.modules[uid]? = some record)
      (samples : record'.samples = record.samples)
      (counts : record'.seriesCounts = record.seriesCounts)
  /-- A sample was ingested (source `Registry::ingest_health`). -/
  | ingest {authority : AuthorityToken} {module : ModuleHandle} {sample : HealthSampleInput}
      {policy : MutationPolicy} {record : ModuleRecord} {trim : SampleTrim}
      (operation : call.operation = .ingestHealth authority module sample policy)
      (named : module.uid = uid) (found : s.modules[uid]? = some record)
      (newer : (ingestedSample s call.clock authority record sample).observedAtMonotonicNs ≠ 0 →
        record.samples.any (replays authority sample
          (ingestedSample s call.clock authority record sample).clockDomain
          (ingestedSample s call.clock authority record sample).observedAtMonotonicNs) = false)
      (trims : trim = trimSamples config
        ⟨record.samples ++ [ingestedSample s call.clock authority record sample],
          countSample record.seriesCounts (seriesKey sample.metric sample.lane), s.droppedSamples⟩)
      (samples : record'.samples = trim.samples) (counts : record'.seriesCounts = trim.seriesCounts)

variable {config : RegistryConfig} {s s' : State}

/-- A located module has the samples it had, or none (source `Registry::register_module`, the
lookup). -/
lemma Located.samples {uid : ModuleUid} {located : ModuleRecord}
    (locate : Located s.modules uid located) :
    (s.modules[uid]? = none ∧ located.samples = [] ∧ located.seriesCounts = ∅) ∨
    ∃ record, s.modules[uid]? = some record ∧ located.samples = record.samples ∧
      located.seriesCounts = record.seriesCounts := by
  cases locate with
  | fresh absent _ _ _ _ samples _ counts => exact .inl ⟨absent, samples, counts⟩
  | current found same => exact .inr ⟨_, found, same.samples, same.seriesCounts⟩
  | renewed found _ _ _ same => exact .inr ⟨_, found, same.samples, same.seriesCounts⟩

/-- Where the samples of a module come from in a step. -/
lemma samplesStep_of_step [StdSort] (coherent : Coherent config s) {call : Call}
    (taken : step config s call = some s') {uid : ModuleUid} {record' : ModuleRecord}
    (found' : s'.modules[uid]? = some record') : SamplesStep config s call uid record' := by
  have moved := step_moduleStep coherent taken
  obtain ⟨operation, clock⟩ := call
  -- a record is the one that was written, or it stays
  have written {i : ModuleUid} {record : ModuleRecord}
      (at_ : s'.modules = s.modules.insert i record) :
      (i = uid ∧ record = record') ∨ SamplesStep config s ⟨operation, clock⟩ uid record' := by
    rw [at_] at found'
    obtain same | ⟨_, old⟩ := getElem?_insert_iff.1 found'
    · exact .inl same
    · exact .inr (.stay old rfl rfl)
  cases moved with
  | stay _ stays => exact .stay (stays ▸ found') rfl rfl
  | move _ found same at_ =>
    obtain ⟨rfl, rfl⟩ | elsewhere := written at_
    · exact .stay found same.samples same.seriesCounts
    · exact elsewhere
  | registerModule _ _ locate _ same at_ =>
    obtain ⟨rfl, rfl⟩ | elsewhere := written at_
    · obtain ⟨absent, samples, counts⟩ | ⟨record, found, samples, counts⟩ := locate.samples
      · exact .fresh absent (same.samples.trans samples) (same.seriesCounts.trans counts)
      · exact .stay found (same.samples.trans samples) (same.seriesCounts.trans counts)
    · exact elsewhere
  | updateIdentity _ found _ at_ =>
    obtain ⟨rfl, rfl⟩ | elsewhere := written at_
    · exact .stay found rfl rfl
    · exact elsewhere
  | publishCapability _ found _ at_ =>
    obtain ⟨rfl, rfl⟩ | elsewhere := written at_
    · exact .stay found rfl rfl
    · exact elsewhere
  | ingestHealth _ found _ stores newer _ trims at_ =>
    subst stores
    obtain ⟨rfl, rfl⟩ | elsewhere := written at_
    · exact .ingest rfl rfl found newer trims rfl rfl
    · exact elsewhere

/-- The counters of every module are exact, and no module holds more samples than allowed. -/
def SampleBooks (config : RegistryConfig) (s : State) : Prop :=
  ∀ (uid : ModuleUid) record, s.modules[uid]? = some record →
    CountsExact record.samples record.seriesCounts ∧
      record.samples.length ≤ config.maxSamplesPerModule.toNat

/-- An ingestion finds room for its sample: the module is below its bound, or the series of the
sample is at its bound and makes room itself. -/
def FindsRoom (config : RegistryConfig) (s : State) (call : Call) : Prop :=
  match call.operation with
  | .ingestHealth _ module sample _ => ∀ record ∈ s.modules[module.uid]?,
      HasRoom config record.samples (seriesKey sample.metric sample.lane)
  | _ => True

instance (config : RegistryConfig) (s : State) (call : Call) :
    Decidable (FindsRoom config s call) :=
  inferInstanceAs (Decidable (call.operation.onIngestion fun _ _ _ _ => ∀ record ∈ _, _))

/-- An ingestion with room leaves exact counters (source `Registry::ingest_health`). -/
lemma SampleBooks.ingested (books : SampleBooks config s) {clock : Clock}
    {authority : AuthorityToken} {module : ModuleHandle} {sample : HealthSampleInput}
    {policy : MutationPolicy} {record : ModuleRecord}
    (room : FindsRoom config s ⟨.ingestHealth authority module sample policy, clock⟩)
    (found : s.modules[module.uid]? = some record) :
    Ingested config record.samples (ingestedSample s clock authority record sample)
      (trimSamples config ⟨record.samples ++ [ingestedSample s clock authority record sample],
        countSample record.seriesCounts (seriesKey sample.metric sample.lane),
        s.droppedSamples⟩) := by
  obtain ⟨exact, fits⟩ := books module.uid record found
  exact ingested_trimSamples exact fits (room record found)

section Step

variable [StdSort]

/-- A step that finds room keeps the counters exact. -/
lemma SampleBooks.step (books : SampleBooks config s) (coherent : Coherent config s) {call : Call}
    (room : FindsRoom config s call) (taken : step config s call = some s') :
    SampleBooks config s' := by
  intro uid record' found'
  obtain ⟨operation, clock⟩ := call
  cases samplesStep_of_step coherent taken found' with
  | fresh _ samples counts =>
    rw [samples, counts]
    exact ⟨fun series => by simp [countOf], Nat.zero_le _⟩
  | stay found samples counts =>
    rw [samples, counts]
    exact books uid _ found
  | ingest operation named found newer trims samples counts =>
    obtain rfl := operation
    subst named
    have ingested := books.ingested room found
    rw [samples, counts, trims]
    exact ⟨ingested.exact, ingested.bounded⟩

/-- Along a run whose ingestions find room the counters are exact. -/
lemma sampleBooks_of_run (reached : Run (step config) (FindsRoom config) State.initial s) :
    SampleBooks config s :=
  coherent_invariant reached (fun uid record found => by simp [State.initial] at found)
    fun _ _ _ coherent books room taken => books.step coherent room taken

/-- As long as every ingestion finds room, the counters are the numbers of stored samples, an
ingestion evicts from a series only what is above the bound of the series, and the new sample is
stored (source `trim_samples`). -/
theorem sample_counts_exact (reached : Run (step config) (FindsRoom config) State.initial s) :
    (∀ (uid : ModuleUid) record, s.modules[uid]? = some record →
      ∀ series, (record.seriesCounts.getD series 0).toNat = countOf record.samples series) ∧
    (∀ clock authority module sample policy s',
      FindsRoom config s ⟨.ingestHealth authority module sample policy, clock⟩ →
      step config s ⟨.ingestHealth authority module sample policy, clock⟩ = some s' →
      ∃ record record', s.modules[module.uid]? = some record ∧
        s'.modules[module.uid]? = some record' ∧
        (∀ series, countOf record'.samples series =
          min (countOf (record.samples ++ [ingestedSample s clock authority record sample]) series)
            config.maxSamplesPerSeries.toNat) ∧
        (1 ≤ config.maxSamplesPerSeries → 1 ≤ config.maxSamplesPerModule →
          ingestedSample s clock authority record sample ∈ record'.samples)) := by
  have books := sampleBooks_of_run reached
  refine ⟨fun uid record found => (books uid record found).1, ?_⟩
  intro clock authority module sample policy s' room taken
  cases step_moduleStep (Coherent.run reached) taken with
  | stay quiet => cases quiet
  | move quiet => cases quiet
  | ingestHealth _ found _ stores _ _ trims written =>
    have ingested := books.ingested room found
    refine ⟨_, _, found, by rw [written, Std.ExtTreeMap.getElem?_insert_self], ?_, ?_⟩
    · rw [trims, stores]
      exact ingested.counts
    · intro positive _
      rw [trims, stores]
      exact ingested.kept (UInt32.le_iff_toNat_le.1 positive)

end Step

/-- A reading of a metric of the module `A` at a monotonic time of a clock domain. -/
def reading (metric : HealthMetric) (monotonic : UInt64) (domain : ClockDomainId) : Call :=
  Operation.now (.ingestHealth host ⟨1, 1, 0, bayA⟩
    ⟨metric, kModuleLane, .present, .ofInt 1, 1, monotonic, domain, hostEvidence⟩ .autoRetry)

/-- A registry that keeps one sample. -/
def oneSample : RegistryConfig := { maxSamplesPerSeries := 1, maxSamplesPerModule := 1 }

/-- The series of the module temperature. -/
def temperature : SeriesKey := seriesKey .temperatureCelsius kModuleLane

/-- A counter of a module is higher than the number of samples, and the next sample is lost as it is
accepted (source `trim_samples`, the second loop). -/
theorem sample_lost_on_arrival :
    ∃ s s' record record', Run (step oneSample) Unguarded State.initial s ∧
      s.modules[(1 : UInt64)]? = some record ∧
      (record.seriesCounts.getD temperature 0).toNat ≠ countOf record.samples temperature ∧
      step oneSample s (reading .temperatureCelsius 3 1) = some s' ∧
      s'.modules[(1 : UInt64)]? = some record' ∧ countOf record'.samples temperature = 0 := by
  have drift : (runActions (step oneSample) [registerHost, registerBay bayA .ensureCurrent,
      reading .temperatureCelsius 1 1, reading .supplyVoltageVolts 2 1] State.initial).any
      (fun s => (s.modules[(1 : UInt64)]?.any fun record =>
          decide ((record.seriesCounts.getD temperature 0).toNat ≠
            countOf record.samples temperature)) &&
        (step oneSample s (reading .temperatureCelsius 3 1)).any fun s' =>
          s'.modules[(1 : UInt64)]?.any fun record' =>
            decide (countOf record'.samples temperature = 0)) = true := by decide +kernel
  obtain ⟨s, reached, shows⟩ := Run.exists_ofActions drift
  simp only [Bool.and_eq_true, Option.any_eq_true, decide_eq_true_eq] at shows
  obtain ⟨⟨record, found, differ⟩, s', taken, record', found', lost⟩ := shows
  exact ⟨s, s', record, record', reached, found, differ, taken, found', lost⟩

/-- With room for two samples of a series, the third reading evicts the first one only. -/
theorem sample_counts_exact_third :
    ∃ s record, Run (step { maxSamplesPerSeries := 2 }) (FindsRoom { maxSamplesPerSeries := 2 })
        State.initial s ∧ s.modules[(1 : UInt64)]? = some record ∧
      countOf record.samples temperature = 2 ∧
      (record.seriesCounts.getD temperature 0).toNat = countOf record.samples temperature := by
  have third : (runGuarded (step { maxSamplesPerSeries := 2 })
      (fun s call => decide (FindsRoom { maxSamplesPerSeries := 2 } s call)) [registerHost,
      registerBay bayA .ensureCurrent, reading .temperatureCelsius 1 1,
      reading .temperatureCelsius 2 1, reading .temperatureCelsius 3 1] State.initial).any
      (fun s => s.modules[(1 : UInt64)]?.any fun record =>
        decide (countOf record.samples temperature = 2)) = true := by decide +kernel
  obtain ⟨s, guarded, shows⟩ := Run.exists_ofGuarded third
  simp only [Option.any_eq_true, decide_eq_true_eq] at shows
  obtain ⟨record, found, two⟩ := shows
  have reached : Run (step { maxSamplesPerSeries := 2 }) (FindsRoom { maxSamplesPerSeries := 2 })
      State.initial s := guarded.mono fun _ _ h => of_decide_eq_true h
  exact ⟨s, record, reached, found, two, (sample_counts_exact reached).1 1 record found _⟩

end TransceiverRegistry
