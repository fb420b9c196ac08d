import TransceiverRegistry.Snapshot.Knowledge

/-!
# What a save and a load keep

The file of a registry that is read back whole restores the registry: what differs is the generation,
the incarnation of the registry, the latches, the counts of the series, and the order in which a module
holds what was stated and measured about it. A module that holds no event comes back with one.
-/

namespace TransceiverRegistry

open Lib

section Definitions

/-- The 64-bit counters of a source that are read with a fallback (source `decode_source`). -/
def SourceRecord.fileCounters (source : SourceRecord) : List UInt64 :=
  [source.generation, source.sequence]

/-- The 64-bit counters of a module that are read with a fallback (source `decode_module`). -/
def ModuleRecord.fileCounters (record : ModuleRecord) : List UInt64 :=
  [record.stateGeneration, record.stateSequence, record.createdGeneration, record.createdSequence,
    record.fencedGeneration]

/-- The 64-bit counters of a port that are read with a fallback (source `decode_port`). -/
def PortRecord.fileCounters (record : PortRecord) : List UInt64 :=
  [record.firstGeneration, record.sequence]

/-- The 64-bit counters of a threshold that are read with a fallback (source `decode_threshold`). -/
def ThresholdRecord.fileCounters (record : ThresholdRecord) : List UInt64 :=
  [record.generation, record.sequence]

/-- The 64-bit counters of a state that are read with a fallback (source `decode_state_header`). -/
def State.fileCounters (s : State) : List UInt64 :=
  [s.nextModuleUid, s.nextRuleId, s.nextSourceId, s.nextSequence, s.mutations, s.droppedSamples,
    s.conflictsObserved]

/-- The counters of a state and of its records are held by a file (source `codec::integer`). -/
def State.fitsFile (s : State) : Bool :=
  (s.fileCounters ++ (s.sources.values.flatMap SourceRecord.fileCounters ++
    (s.modules.values.flatMap ModuleRecord.fileCounters ++
      (s.ports.values.flatMap PortRecord.fileCounters ++
        s.thresholds.flatMap ThresholdRecord.fileCounters)))).all fun n => n.toNat < 2 ^ 63

/-- A module that comes back: the lists in another order, and nothing else but the latches and the
counts of the series. A module without events gets one that says so (source `encode_module`,
`decode_module`). -/
structure ModuleRecord.Reloaded (record record' : ModuleRecord) : Prop where
  frame : { record with
    claims := record'.claims, declarations := record'.declarations, samples := record'.samples
    lifecycle := record'.lifecycle, latches := record'.latches
    seriesCounts := record'.seriesCounts } = record'
  claims : record.claims.Perm record'.claims
  declarations : record.declarations.Perm record'.declarations
  samples : record.samples.Perm record'.samples
  lifecycle : record.lifecycle ≠ [] → record.lifecycle.Perm record'.lifecycle
  restored : record.lifecycle = [] → record'.lifecycle = [restoredEvent record.state
    record.incarnation record.stateGeneration record.stateSequence record.createdWallNs]

/-- A state that comes back: the next generation in the next incarnation of the registry, and nothing
else but what the modules get and the superseded thresholds when the history is left out. What is
agreed on about every module and port is the same (source `save_snapshot_impl`, `load_snapshot`). -/
structure State.Reloaded (includeHistory : Bool) (s s' : State) : Prop where
  frame : { s with
    generation := s.generation + 1
    registryIncarnation :=
      if s.registryIncarnation = 0xFFFFFFFF then 1 else s.registryIncarnation + 1
    modules := s'.modules
    thresholds := s.thresholds.filter fun record => includeHistory || record.live } = s'
  modules : ∀ uid : ModuleUid, Option.Rel ModuleRecord.Reloaded s.modules[uid]? s'.modules[uid]?
  identity : ∀ module, (TransceiverRegistry.identity s' module).map (·.fields) =
    (TransceiverRegistry.identity s module).map (·.fields)
  capabilities : ∀ module, (TransceiverRegistry.capabilities s' module).map (·.attributes) =
    (TransceiverRegistry.capabilities s module).map (·.attributes)
  portCapabilities : ∀ port, (TransceiverRegistry.portCapabilities s' port).map (·.attributes) =
    (TransceiverRegistry.portCapabilities s port).map (·.attributes)

end Definitions

section Records

variable {s : State}

/-- A counter that a file holds is read back (source `get_unsigned_or`). -/
lemma storedCounter_of_lt {fallback n : UInt64} (small : n.toNat < 2 ^ 63) :
    storedCounter fallback n = n := if_pos small

/-- A source whose counters a file holds is read back (source `decode_source`). -/
lemma SourceRecord.restored_eq {source : SourceRecord}
    (small : ∀ n ∈ source.fileCounters, n.toNat < 2 ^ 63) : source.restored = source := by
  simp only [fileCounters, List.forall_mem_cons, List.not_mem_nil, false_imp_iff, implies_true,
    and_true] at small
  rw [restored, storedCounter_of_lt small.1, storedCounter_of_lt small.2]

/-- A port whose counters a file holds is read back (source `decode_port`). -/
lemma PortRecord.restored_eq {record : PortRecord}
    (small : ∀ n ∈ record.fileCounters, n.toNat < 2 ^ 63) : record.restored = record := by
  simp only [fileCounters, List.forall_mem_cons, List.not_mem_nil, false_imp_iff, implies_true,
    and_true] at small
  rw [restored, storedCounter_of_lt small.1, storedCounter_of_lt small.2]

/-- A threshold whose counters a file holds is read back (source `decode_threshold`). -/
lemma ThresholdRecord.restored_eq {record : ThresholdRecord}
    (small : ∀ n ∈ record.fileCounters, n.toNat < 2 ^ 63) : record.restored = record := by
  simp only [fileCounters, List.forall_mem_cons, List.not_mem_nil, false_imp_iff, implies_true,
    and_true] at small
  rw [restored, storedCounter_of_lt small.1, storedCounter_of_lt small.2]

/-- What fits a file. -/
lemma State.fitsFile_iff : s.fitsFile = true ↔ (∀ n ∈ s.fileCounters, n.toNat < 2 ^ 63) ∧
    (∀ source ∈ s.sources.values, ∀ n ∈ source.fileCounters, n.toNat < 2 ^ 63) ∧
    (∀ record ∈ s.modules.values, ∀ n ∈ record.fileCounters, n.toNat < 2 ^ 63) ∧
    (∀ record ∈ s.ports.values, ∀ n ∈ record.fileCounters, n.toNat < 2 ^ 63) ∧
    ∀ record ∈ s.thresholds, ∀ n ∈ record.fileCounters, n.toNat < 2 ^ 63 := by
  simp only [fitsFile, List.all_append, Bool.and_eq_true, List.all_eq_true, decide_eq_true_eq,
    List.forall_mem_flatMap]

end Records

section Load

variable [StdSort] {s saved parsed : State} {includeHistory : Bool} {record : ModuleRecord}
  {config : RegistryConfig}

/-- A module comes back (source `encode_module`, `decode_module`). -/
lemma ModuleRecord.Flagged.reloaded (flagged : record.Flagged)
    (small : ∀ n ∈ record.fileCounters, n.toNat < 2 ^ 63) (now : WallNs) :
    record.Reloaded (((record.stored includeHistory).restored).revalidate parsed now) := by
  have alike : record.Alike (((record.stored includeHistory).restored).revalidate parsed now) :=
    record.alike_restored flagged now
  simp only [fileCounters, List.forall_mem_cons, List.not_mem_nil, false_imp_iff, implies_true,
    and_true] at small
  obtain ⟨stateGeneration, stateSequence, createdGeneration, createdSequence, fenced⟩ := small
  refine ⟨?_, alike.claims, alike.declarations, alike.samples, alike.lifecycle, fun none => ?_⟩
  · simp only [revalidate, restored, stored, storedCounter_of_lt stateGeneration,
      storedCounter_of_lt stateSequence, storedCounter_of_lt createdGeneration,
      storedCounter_of_lt createdSequence, storedCounter_of_lt fenced]
  · have written : StdSort.sort eventBefore record.lifecycle = [] := by
      have perm := StdSort.perm eventBefore record.lifecycle
      rw [none] at perm
      rw [none]
      exact perm.eq_nil
    show (if StdSort.sort eventBefore record.lifecycle = [] then
      [restoredEvent record.state record.incarnation (storedCounter 0 record.stateGeneration)
        (storedCounter 0 record.stateSequence) record.createdWallNs] else _) = _
    rw [if_pos written, storedCounter_of_lt stateGeneration, storedCounter_of_lt stateSequence]

/-- The sequence counter of every registry that operations, saves, crashes and loads reach is not zero
(source `next_sequence`, `load_snapshot`). -/
lemma Run.nextSequence_ne_zero {w : Deployment}
    (reached : Run Deployment.step (fun w event => keepsStates advances holdsCounters w event = true)
      (Deployment.fresh config) w) : w.registry.nextSequence ≠ 0 := by
  refine Run.upheld (P := fun s => s.nextSequence ≠ 0) reached (by decide) ?_ ?_
  · intro config s call s' room taken _
    have grows := NoWrap.grows (of_decide_eq_true (Bool.and_eq_true_iff.1 room).1) taken
    intro zero
    rw [zero] at grows
    exact Nat.not_lt_zero _ grows
  · intro saved includeHistory parsed now _ _ _
    show (if parsed.nextSequence = 0 then 1 else parsed.nextSequence) ≠ 0
    split
    · decide
    · assumption

attribute [ext] State

/-- A registry that fits a file comes back but for what the modules get (source
`load_snapshot`). -/
lemma Restartable.frame (h : Restartable saved) (fits : saved.fitsFile = true)
    (started : saved.nextSequence ≠ 0) (now : WallNs) : { saved with
      generation := saved.generation + 1
      registryIncarnation :=
        if saved.registryIncarnation = 0xFFFFFFFF then 1 else saved.registryIncarnation + 1
      modules := ((saved.reread includeHistory).restore now).modules
      thresholds := saved.thresholds.filter fun record => includeHistory || record.live } =
    (saved.reread includeHistory).restore now := by
  obtain ⟨own, sources, modules, ports, thresholds⟩ := State.fitsFile_iff.1 fits
  simp only [State.fileCounters, List.forall_mem_cons, List.not_mem_nil, false_imp_iff, implies_true,
    and_true] at own
  obtain ⟨moduleUid, ruleId, sourceId, sequence, mutations, dropped, conflicts⟩ := own
  refine State.ext rfl rfl ?_ ?_ ?_ ?_ ?_ ?_ rfl ?_ ?_ ?_ ?_ ?_ ?_ ?_ ?_ <;> refine Eq.symm ?_
  · exact storedCounter_of_lt moduleUid
  · exact storedCounter_of_lt ruleId
  · exact storedCounter_of_lt sourceId
  · show (if storedCounter 1 saved.nextSequence = 0 then 1 else
      storedCounter 1 saved.nextSequence) = saved.nextSequence
    rw [storedCounter_of_lt sequence, if_neg started]
  · exact h.consistent.sources.keyed.insertAll_same (StdSort.perm _ _) fun source member =>
      SourceRecord.restored_eq (sources source member)
  · exact h.consistent.names.nameAll_eq h.consistent.sources.keyed (StdSort.perm _ _)
      (fun _ => rfl) fun _ => rfl
  · exact h.consistent.keys.nameAll_eq h.consistent.modules.keyed (StdSort.perm _ _)
      (f := fun record => (record.stored includeHistory).restored) (fun _ => rfl) fun _ => rfl
  · exact h.housed.ports.insertAll_same (StdSort.perm _ _) fun record member =>
      PortRecord.restored_eq (ports record member)
  · exact reloaded_attachments h.housed h.consistent.modules.keyed now
  · show (saved.thresholds.filter fun record => includeHistory || record.live).map
      ThresholdRecord.restored = _
    rw [List.map_congr_left fun record member =>
      ThresholdRecord.restored_eq (thresholds record (List.mem_of_mem_filter member)), List.map_id']
  · exact h.consistent.rules.keyed.insertAll_values (StdSort.perm _ _)
  · exact storedCounter_of_lt mutations
  · exact storedCounter_of_lt dropped
  · exact storedCounter_of_lt conflicts

omit [StdSort] in
/-- The fields of a module do not depend on the generation (source `Registry::identity`). -/
lemma identity_fields (s : State) (generation : Generation) (module : ModuleHandle) :
    (identity { s with generation } module).map (·.fields) = (identity s module).map (·.fields) := by
  unfold identity
  show ((queriedModule s _ _ _ >>= _) : Result _).map _ = (queriedModule s _ _ _ >>= _).map _
  cases queriedModule s module.uid module.incarnation _ <;> rfl

omit [StdSort] in
/-- The attributes of a module do not depend on the generation (source `Registry::capabilities`). -/
lemma capabilities_attributes (s : State) (generation : Generation) (module : ModuleHandle) :
    (capabilities { s with generation } module).map (·.attributes) =
      (capabilities s module).map (·.attributes) := by
  unfold capabilities
  show ((queriedModule s _ _ _ >>= _) : Result _).map _ = (queriedModule s _ _ _ >>= _).map _
  cases queriedModule s module.uid module.incarnation _ <;> rfl

omit [StdSort] in
/-- The attributes of a port do not depend on the generation (source
`Registry::port_capabilities`). -/
lemma portCapabilities_attributes (s : State) (generation : Generation) (port : PortKey) :
    (portCapabilities { s with generation } port).map (·.attributes) =
      (portCapabilities s port).map (·.attributes) := by
  unfold portCapabilities
  show ((orRefuse s.ports[port.str]? _ >>= _) : Result _).map _ =
    (orRefuse s.ports[port.str]? _ >>= _).map _
  cases s.ports[port.str]? <;> rfl

/-- A registry that fits a file comes back (source `load_snapshot`). -/
lemma Restartable.reloaded_whole (h : Restartable saved) (fits : saved.fitsFile = true)
    (started : saved.nextSequence ≠ 0) (now : WallNs) :
    saved.Reloaded includeHistory ((saved.reread includeHistory).restore now) := by
  have alike : saved.Alike ((saved.reread includeHistory).restore now) := h.alike now
  have same : State.Alike { saved with
      generation := ((saved.reread includeHistory).restore now).generation }
      ((saved.reread includeHistory).restore now) :=
    ⟨alike.sources, alike.modules, alike.ports, alike.attachments, alike.thresholds, alike.rules⟩
  have apart := h.apart
  refine ⟨h.frame fits started now, fun uid => ?_, fun module => ?_, fun module => ?_, fun port => ?_⟩
  · have modules : (saved.reread includeHistory).modules =
        saved.modules.map fun _ record => (record.stored includeHistory).restored :=
      State.reread_modules h.consistent.modules.keyed
    show Option.Rel _ _ ((saved.reread includeHistory).modules.map fun _ record =>
      record.revalidate (saved.reread includeHistory) now)[uid]?
    rw [Std.ExtTreeMap.getElem?_map, modules, Std.ExtTreeMap.getElem?_map]
    cases found : saved.modules[uid]? with
    | none => exact .none
    | some record =>
      have small := (State.fitsFile_iff.1 fits).2.2.1 record (mem_values.2 ⟨uid, found⟩)
      exact .some ((h.flags uid record found).reloaded small now)
  · rw [same.identity apart rfl module, identity_fields]
  · rw [same.capabilities apart rfl module, capabilities_attributes]
  · rw [same.portCapabilities rfl port, portCapabilities_attributes]

/-- In every state that operations, saves, crashes and loads reach while the counters have a next
value, whose counters a file holds: when the bytes that are saved of it are parsed without an error and
in whole, and are no more than a file may have, a load into an empty registry gives the state back
(source `load_snapshot`). -/
theorem reload_preserves_knowledge {w : Deployment}
    (reached : Run Deployment.step (fun w event => keepsStates advances holdsCounters w event = true)
      (Deployment.fresh config) w) (fits : w.registry.fitsFile = true) {options : LoadOptions}
    {p : ParsedSnapshot}
    (accepted : parseSnapshot (snapshotFile w.registry includeHistory) options = .ok p)
    (whole : p.tailRecovered = false)
    (short : (snapshotFile w.registry includeHistory).length ≤ kMaxSnapshotBytes)
    (empty : s.isEmpty = true) (clock : Clock) :
    ∃ s' report, loadSnapshot clock options (snapshotFile w.registry includeHistory) s =
      .ok (s', report) ∧ w.registry.Reloaded includeHistory s' := by
  refine ⟨_, _, loadSnapshot_eq_ok.2 ⟨empty, short, p, accepted, rfl, rfl⟩, ?_⟩
  rw [parseSnapshot_whole short accepted whole]
  exact (Run.restartable reached).reloaded_whole fits
    (Run.nextSequence_ne_zero reached) _

end Load

/-- A registry that keeps no events. -/
def eventless : RegistryConfig := { maxLifecycleHistory := 0 }

set_option maxRecDepth 20000 in
/-- A registry with one module comes back. -/
theorem reload_preserves_knowledge_bay : ∃ (w : Deployment) (s' : State),
    (w.registry.modules[(1 : UInt64)]?).isSome ∧ w.registry.Reloaded true s' := by
  have saved : (runGuarded Deployment.step (keepsStates advances holdsCounters)
      [.call registerHost, .call (registerBay bayA .ensureCurrent)] (Deployment.fresh {})).any
      (fun w => ((w.registry.modules[(1 : UInt64)]?).isSome && w.registry.fitsFile) &&
        (decide ((snapshotFile w.registry true).length ≤ kMaxSnapshotBytes) &&
        (parseSnapshot (snapshotFile w.registry true) {}).toOption.any
          fun p => !p.tailRecovered)) = true := by decide +kernel
  obtain ⟨w, reached, shows⟩ := Run.exists_ofGuarded saved
  obtain ⟨stated, shows⟩ := Bool.and_eq_true_iff.1 shows
  obtain ⟨known, fits⟩ := Bool.and_eq_true_iff.1 stated
  obtain ⟨short, shows⟩ := Bool.and_eq_true_iff.1 shows
  obtain ⟨p, accepted, whole⟩ := (Option.any_eq_true _ _).1 shows
  obtain ⟨s', _, _, same⟩ := reload_preserves_knowledge reached fits (toOption_eq_some.1 accepted)
    ((Bool.not_eq_true' _).mp whole) (of_decide_eq_true short) (s := .initial) (by decide) stillClock
  exact ⟨w, s', known, same⟩

set_option maxRecDepth 20000 in
/-- A module whose events are not kept comes back with an event (source `decode_module`). -/
theorem reload_adds_event : ¬ ∀ (config : RegistryConfig) (w : Deployment) (clock : Clock) (s' : State)
    (report : LoadReport), Run Deployment.step Unguarded (Deployment.fresh config) w →
    loadSnapshot clock {} (snapshotFile w.registry true) .initial = .ok (s', report) →
    report.tailRecovered = false → ∀ (uid : ModuleUid) record record',
      w.registry.modules[uid]? = some record → s'.modules[uid]? = some record' →
      ∀ event, event ∈ record.lifecycle ↔ event ∈ record'.lifecycle := by
  intro h
  have saved : (runActions Deployment.step [.call registerHost,
      .call (registerBay bayA .ensureCurrent)] (Deployment.fresh eventless)).any (fun w =>
        (loadSnapshot stillClock {} (snapshotFile w.registry true) .initial).toOption.any
          fun loaded => !loaded.2.tailRecovered &&
            w.registry.modules[(1 : UInt64)]?.any fun record =>
              loaded.1.modules[(1 : UInt64)]?.any fun record' =>
                record.lifecycle.isEmpty && !record'.lifecycle.isEmpty) = true := by
    decide +kernel
  obtain ⟨w, reached, shows⟩ := Run.exists_ofActions saved
  obtain ⟨⟨s', report⟩, loaded, shows⟩ := (Option.any_eq_true _ _).1 shows
  obtain ⟨whole, shows⟩ := Bool.and_eq_true_iff.1 shows
  obtain ⟨record, found, shows⟩ := (Option.any_eq_true _ _).1 shows
  obtain ⟨record', found', shows⟩ := (Option.any_eq_true _ _).1 shows
  obtain ⟨none, some⟩ := Bool.and_eq_true_iff.1 shows
  have same := h _ w stillClock s' report reached (toOption_eq_some.1 loaded)
    ((Bool.not_eq_true' _).mp whole) 1 record record' found found'
  have nothing : record'.lifecycle = [] := by
    refine List.eq_nil_iff_forall_not_mem.2 fun event member => ?_
    rw [← same, List.isEmpty_iff.1 none] at member
    exact List.not_mem_nil member
  rw [nothing] at some
  cases some

end TransceiverRegistry
