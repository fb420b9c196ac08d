import TransceiverRegistry.Registry.Shown
import TransceiverRegistry.Registry.Liveness
import TransceiverRegistry.Registry.LastWrite

/-!
# The rows of a health report

A report has a row for every series that a policy, a sample or a declaration of telemetry names. The
declarations are read with the flag they were stored with, which is never cleared: the report also
considers telemetry that a source has withdrawn since, or that it declared under a retired epoch.
-/

namespace TransceiverRegistry

open Lib

/-- A declaration is live: it is about the current incarnation, under the current epoch of its
source, and no later declaration revises it (source `live_declarations`). -/
structure LiveDeclaration (s : State) (record : ModuleRecord) (declaration : CapabilityDeclaration) :
    Prop where
  stored : declaration ∈ record.declarations
  current : declaration.incarnation = record.incarnation
  epoch : sourceIsLive s declaration.source declaration.sourceEpoch = true
  latest : declarationShadowed record.declarations declaration = false

/-- A declaration promises the telemetry of a metric (source `telemetry_capability_metric`). -/
def Promises (declaration : CapabilityDeclaration) (metric : HealthMetric) : Prop :=
  telemetryCapabilityMetric declaration.key = some metric ∧
    declaration.value.asBoolean = some true

/-- The series that a report should consider: those of the thresholds in force, of the samples of
the current incarnation, and of the telemetry that live declarations promise. -/
def Considered (s : State) (record : ModuleRecord) (row : SeriesKey) : Prop :=
  (∃ threshold ∈ liveThresholds s, row = seriesKey threshold.metric threshold.lane) ∨
  (∃ sample ∈ record.samples, sample.incarnation = record.incarnation ∧
    row = seriesKey sample.metric sample.lane) ∨
  ∃ declaration metric, LiveDeclaration s record declaration ∧ Promises declaration metric ∧
    row = seriesKey metric kModuleLane

/-- The series of the rows of a report, in order. -/
def HealthReport.rowKeys (report : HealthReport) : List SeriesKey :=
  report.metrics.map fun row => seriesKey row.metric row.lane

/-- A report considers exactly the right series, in ascending order and none of them twice. -/
structure RowsExact (s : State) (record : ModuleRecord) (report : HealthReport) : Prop where
  ascending : report.rowKeys.Pairwise fun a b => (compareSeries a b).isLT = true
  mem_iff : ∀ row, row ∈ report.rowKeys ↔ Considered s record row

variable {config : RegistryConfig} {s s' : State} {record : ModuleRecord}

/-- Considering series one by one keeps them distinct (source `build_health_report`, `add_row`). -/
lemma nodup_foldl_addRow {rows added : List SeriesKey} (distinct : rows.Nodup) :
    (added.foldl addRow rows).Nodup := by
  induction added generalizing rows with
  | nil => exact distinct
  | cons row rest ih =>
    refine ih ?_
    unfold addRow
    split
    · exact distinct
    · rename_i new
      refine List.nodup_append.2 ⟨distinct, List.nodup_singleton _, fun a member b last => ?_⟩
      rw [List.mem_singleton.1 last]
      rintro rfl
      exact new member

section Report

variable [StdSort]

/-- The series considered are in strict order (source `build_health_report`, the sort of `rows`). -/
lemma reportRows_ascending :
    (reportRows s record).Pairwise fun a b => (compareSeries a b).isLT = true := by
  have sorted : SortedBy (fun a b => (compareSeries a b).isLT) (reportRows s record) :=
    StdSort.sorted (strictWeakOn_compare compareSeries id _)
  have distinct : (reportRows s record).Nodup :=
    (StdSort.perm _ _).nodup_iff.2 (nodup_foldl_addRow List.nodup_nil)
  refine (List.pairwise_and_iff.2 ⟨sorted, distinct⟩).imp fun {a b} both => ?_
  obtain ⟨notAfter, differ⟩ := both
  rw [Ordering.isLT_iff_eq_lt]
  cases order : compareSeries a b with
  | lt => rfl
  | eq => exact absurd (Std.LawfulEqCmp.eq_of_compare order) differ
  | gt =>
    have before : compareSeries b a = .lt := Std.OrientedCmp.lt_of_gt order
    have after : (compareSeries b a).isLT = false := notAfter
    rw [before] at after
    cases after

omit [StdSort] in
/-- The series a declaration is read to promise (source `build_health_report`, the third loop). -/
lemma declaredSeries_eq_some {declaration : CapabilityDeclaration} {row : SeriesKey} :
    declaredSeries record declaration = some row ↔
      declaration.incarnation = record.incarnation ∧ declaration.live = true ∧
      ∃ metric, Promises declaration metric ∧ row = seriesKey metric kModuleLane := by
  unfold declaredSeries Promises
  by_cases counts : declaration.incarnation = record.incarnation ∧ declaration.live = true
  · rw [if_neg (by simp [counts])]
    cases telemetryCapabilityMetric declaration.key with
    | none => simp
    | some metric =>
      cases declaration.value.asBoolean with
      | none => simp
      | some declared => cases declared <;> simp [counts, eq_comm]
  · rw [if_pos (by simpa [imp_iff_not_or] using counts)]
    simp only [reduceCtorEq, false_iff]
    exact fun h => counts ⟨h.1, h.2.1⟩

/-- A series considered is one of a metric and a lane (source `build_health_report`, `add_row`). -/
lemma exists_seriesKey {row : SeriesKey} (member : row ∈ reportRows s record) :
    ∃ metric lane, row = seriesKey metric lane := by
  obtain policy | evidence | declared := mem_reportRows.1 member
  · obtain ⟨threshold, _, rfl⟩ := List.mem_map.1 policy
    exact ⟨_, _, rfl⟩
  · obtain ⟨sample, _, rfl⟩ := List.mem_map.1 evidence
    exact ⟨_, _, rfl⟩
  · obtain ⟨declaration, _, series⟩ := List.mem_filterMap.1 declared
    obtain ⟨_, _, metric, _, rfl⟩ := declaredSeries_eq_some.1 series
    exact ⟨_, _, rfl⟩

/-- The rows of a report are those of the series considered (source `build_health_report`, the
loop). -/
lemma rowKeys_buildHealthReport (now : WallNs) (domain : ClockDomainId) :
    (buildHealthReport config now domain s record).rowKeys = reportRows s record := by
  simp only [HealthReport.rowKeys, buildHealthReport, List.map_map]
  refine (List.map_congr_left fun row member => ?_).trans (List.map_id _)
  obtain ⟨metric, lane, rfl⟩ := exists_seriesKey member
  obtain ⟨ofMetric, ofLane, _⟩ := classifyRow_state config now s record (seriesKey metric lane)
  rw [Function.comp_apply, Function.comp_apply, ofMetric, ofLane, ofCode_seriesKey]
  rfl

end Report

/-- Every stored declaration carries the flag of a live one. -/
def StoredLive (s : State) : Prop :=
  ∀ (uid : ModuleUid) record, s.modules[uid]? = some record →
    ∀ declaration ∈ record.declarations, declaration.live = true

/-- A module that is written keeps the flags of its declarations when none is added. -/
lemma StoredLive.insert (stored : StoredLive s) {uid : ModuleUid} {record' : ModuleRecord}
    (written : s'.modules = s.modules.insert uid record')
    (flags : ∀ declaration ∈ record'.declarations, declaration.live = true) : StoredLive s' := by
  intro uid' record found
  rw [written] at found
  obtain ⟨_, rfl⟩ | ⟨_, old⟩ := getElem?_insert_iff.1 found
  · exact flags
  · exact stored uid' record old

section Run

variable [StdSort]

/-- A step keeps the flags of the declarations (source `Registry::publish_capability`). -/
lemma StoredLive.step (stored : StoredLive s) (coherent : Coherent config s) {call : Call}
    (taken : step config s call = some s') : StoredLive s' := by
  have moved := step_moduleStep coherent taken
  obtain ⟨operation, clock⟩ := call
  cases moved with
  | stay _ written =>
    intro uid record found
    rw [written] at found
    exact stored uid record found
  | @move _ uid record _ _ found same written =>
    refine stored.insert written ?_
    rw [same.declarations]
    exact stored uid record found
  | @registerModule _ _ uid located _ _ _ _ locate _ same written =>
    refine stored.insert written ?_
    rw [same.declarations]
    obtain ⟨_, _, none⟩ | ⟨record, found, _, _, kept⟩ := locate.statements
    · intro declaration member
      have member : declaration ∈ located.declarations := member
      rw [none] at member
      cases member
    · intro declaration member
      have member : declaration ∈ located.declarations := member
      rw [kept] at member
      exact stored uid record found declaration member
  | @updateIdentity _ module _ _ _ record _ _ found _ written =>
    exact stored.insert written (stored module.uid record found)
  | @publishCapability _ module _ _ _ _ _ record _ _ found trim written =>
    refine stored.insert written fun declaration member => ?_
    obtain old | new := List.mem_append.1 ((trimDeclarations_sublist trim).subset member)
    · exact stored module.uid record found declaration old
    · obtain rfl := List.mem_singleton.1 new
      rfl
  | @ingestHealth _ module _ _ record _ _ _ _ found _ _ _ _ _ written =>
    exact stored.insert written (stored module.uid record found)

/-- In every reachable state the stored declarations carry the flag of a live one: it is never
cleared. -/
lemma storedLive_of_run {ok : State → Call → Prop} (reached : Run (step config) ok State.initial s) :
    StoredLive s :=
  coherent_invariant reached (fun uid record found => by simp [State.initial] at found)
    fun _ _ _ coherent stored _ taken => stored.step coherent taken

/-- In every reachable state, the report of a module considers exactly the right series exactly when
every series that a stored declaration of the current incarnation promises is considered for a
reason that holds: a policy, a sample, or a live declaration (source `build_health_report`). -/
theorem report_rows_exact_iff {uid : ModuleUid} (now : WallNs) (domain : ClockDomainId)
    (reached : Run (TransceiverRegistry.step config) Unguarded State.initial s)
    (found : s.modules[uid]? = some record) :
    RowsExact s record (buildHealthReport config now domain s record) ↔
      ∀ declaration ∈ record.declarations, declaration.incarnation = record.incarnation →
        ∀ metric, Promises declaration metric →
          Considered s record (seriesKey metric kModuleLane) := by
  have stored := storedLive_of_run reached uid record found
  have keys : (buildHealthReport config now domain s record).rowKeys = reportRows s record :=
    rowKeys_buildHealthReport now domain
  constructor
  · intro exact declaration member current metric promises
    refine (exact.mem_iff _).1 ?_
    rw [keys, mem_reportRows, List.mem_filterMap]
    exact .inr (.inr ⟨declaration, member, declaredSeries_eq_some.2
      ⟨current, stored declaration member, metric, promises, rfl⟩⟩)
  · intro reasons
    constructor
    · rw [keys]
      exact reportRows_ascending
    · intro row
      rw [keys, mem_reportRows]
      constructor
      · rintro (policy | evidence | declared)
        · obtain ⟨threshold, member, rfl⟩ := List.mem_map.1 policy
          exact .inl ⟨threshold, member, rfl⟩
        · obtain ⟨sample, member, rfl⟩ := List.mem_map.1 evidence
          obtain ⟨member, current⟩ := List.mem_filter.1 member
          exact .inr (.inl ⟨sample, member, of_decide_eq_true current, rfl⟩)
        · obtain ⟨declaration, member, series⟩ := List.mem_filterMap.1 declared
          obtain ⟨current, _, metric, promises, rfl⟩ := declaredSeries_eq_some.1 series
          exact reasons declaration member current metric promises
      · rintro (⟨threshold, member, rfl⟩ | ⟨sample, member, current, rfl⟩ |
          ⟨declaration, metric, live, promises, rfl⟩)
        · exact .inl (List.mem_map_of_mem member)
        · refine .inr (.inl (List.mem_map_of_mem (List.mem_filter.2 ⟨member, ?_⟩)))
          exact decide_eq_true current
        · refine .inr (.inr (List.mem_filterMap.2 ⟨declaration, live.stored, ?_⟩))
          exact declaredSeries_eq_some.2
            ⟨live.current, stored declaration live.stored, metric, promises, rfl⟩

end Run

/-- Declare that the module `A` reports its temperature, or that it does not. -/
def declareTelemetry (reports : Bool) : Call :=
  Operation.now (.publishCapability host firstA .temperatureTelemetry [] (.boolean reports)
    hostEvidence .autoRetry)

/-- The declaration is live. -/
def isLiveDeclaration (s : State) (record : ModuleRecord) (declaration : CapabilityDeclaration) :
    Bool :=
  declaration.incarnation = record.incarnation &&
    sourceIsLive s declaration.source declaration.sourceEpoch &&
    !declarationShadowed record.declarations declaration

/-- The declared telemetry of a live declaration is a row of the report. -/
theorem report_rows_exact_iff_declared : ∃ s record, s.modules[(1 : UInt64)]? = some record ∧
    record.declarations ≠ [] ∧ RowsExact s record (buildHealthReport {} 1 1 s record) := by
  have declared : (runActions (step {}) [registerHost, registerBay bayA .ensureCurrent,
      declareTelemetry true] State.initial).any (fun s => s.modules[(1 : UInt64)]?.any fun record =>
        record.declarations.length = 1 && record.declarations.all (isLiveDeclaration s record)) =
      true := by decide +kernel
  obtain ⟨s, reached, shows⟩ := Run.exists_ofActions declared
  simp only [Option.any_eq_true, Bool.and_eq_true, decide_eq_true_eq, List.all_eq_true,
    isLiveDeclaration, Bool.not_eq_true'] at shows
  obtain ⟨record, found, one, live⟩ := shows
  refine ⟨s, record, found, ?_, (report_rows_exact_iff 1 1 reached found).2 ?_⟩
  · rintro empty
    simp [empty] at one
  · intro declaration member current metric promises
    obtain ⟨⟨_, epoch⟩, latest⟩ := live declaration member
    exact .inr (.inr ⟨declaration, metric, ⟨member, current, epoch, latest⟩, promises, rfl⟩)

/-- Telemetry that a source declared and withdrew is still a row of the report (source
`build_health_report`, the third loop). -/
theorem withdrawn_telemetry_considered :
    ¬ ∀ (config : RegistryConfig) (s : State) (uid : ModuleUid) (record : ModuleRecord)
      (now : WallNs) (domain : ClockDomainId), Run (step config) Unguarded State.initial s →
      s.modules[uid]? = some record →
      RowsExact s record (buildHealthReport config now domain s record) := by
  intro h
  have withdrawn : (runActions (step {}) [registerHost, registerBay bayA .ensureCurrent,
      declareTelemetry true, declareTelemetry false] State.initial).any (fun s =>
        s.thresholds.isEmpty && s.modules[(1 : UInt64)]?.any fun record =>
          record.samples.isEmpty && !(buildHealthReport {} 1 1 s record).rowKeys.isEmpty &&
          record.declarations.all fun declaration =>
            !(isLiveDeclaration s record declaration && declaration.value.asBoolean = some true)) =
      true := by decide +kernel
  obtain ⟨s, reached, shows⟩ := Run.exists_ofActions withdrawn
  simp only [Option.any_eq_true, Bool.and_eq_true, List.isEmpty_iff, List.all_eq_true,
    Bool.not_eq_true', List.isEmpty_eq_false_iff] at shows
  obtain ⟨unpublished, record, found, ⟨silent, some⟩, dead⟩ := shows
  obtain ⟨row, member⟩ := List.exists_mem_of_ne_nil _ some
  have considered := ((h {} s 1 record 1 1 reached found).mem_iff row).1 member
  obtain ⟨threshold, inForce, _⟩ | ⟨sample, stored, _⟩ | ⟨declaration, metric, live, promises, _⟩ :=
    considered
  · simp [liveThresholds, unpublished] at inForce
  · simp [silent] at stored
  · have off := dead declaration live.stored
    simp [isLiveDeclaration, live.current, live.epoch, live.latest, promises.2] at off

end TransceiverRegistry
