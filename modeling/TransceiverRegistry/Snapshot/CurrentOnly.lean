import TransceiverRegistry.Registry.Flags
import TransceiverRegistry.Registry.Queries
import TransceiverRegistry.Registry.ReportRows
import TransceiverRegistry.Snapshot.Restart
import TransceiverRegistry.Snapshot.Whole

/-!
# Saving without history

The claims and declarations that are written without history are those whose stored flag is set. No
flag is ever cleared, so nothing is left out: what is written is current knowledge exactly when the
modules hold nothing else.
-/

namespace TransceiverRegistry

open Lib

section Definitions

/-- The claim is live: it is about the current incarnation, from the current epoch of its source,
and no later claim covers it (source `live_claims`). -/
def isLiveClaim (s : State) (record : ModuleRecord) (claim : IdentityClaim) : Bool :=
  claim.incarnation = record.incarnation && sourceIsLive s claim.source claim.sourceEpoch &&
    !claimShadowed record.claims claim

/-- The module holds no superseded claim or declaration. -/
structure ModuleRecord.Current (s : State) (record : ModuleRecord) : Prop where
  claims : ∀ claim ∈ record.claims, isLiveClaim s record claim = true
  declarations : ∀ declaration ∈ record.declarations, isLiveDeclaration s record declaration = true

variable [StdSort]

/-- Exactly the claims and declarations of the module that are not superseded are written without
history (source `encode_module`). -/
structure ModuleRecord.WritesCurrent (s : State) (record : ModuleRecord) : Prop where
  claims : ∀ claim, claim ∈ (record.stored false).claims ↔
    claim ∈ record.claims ∧ isLiveClaim s record claim = true
  declarations : ∀ declaration, declaration ∈ (record.stored false).declarations ↔
    declaration ∈ record.declarations ∧ isLiveDeclaration s record declaration = true

/-- Two registries give the same answers (source `Registry::identity`, `Registry::capabilities`,
`Registry::query_compatibility`). -/
structure SameAnswers (s s' : State) : Prop where
  identity : ∀ module,
    TransceiverRegistry.identity s module = TransceiverRegistry.identity s' module
  capabilities : ∀ module,
    TransceiverRegistry.capabilities s module = TransceiverRegistry.capabilities s' module
  compatibility : ∀ now domain query,
    queryCompatibility now domain s query = queryCompatibility now domain s' query

/-- What is saved without history is current knowledge, and a registry that it is loaded into
answers like one that loads the whole history (source `SaveOptions::include_history`). -/
structure SavesCurrent (s : State) : Prop where
  records : ∀ (uid : ModuleUid) record, s.modules[uid]? = some record → record.WritesCurrent s
  answers : ∀ clock options blank brief full report report',
    loadSnapshot clock options (snapshotFile s false) blank = .ok (brief, report) →
    loadSnapshot clock options (snapshotFile s true) blank = .ok (full, report') →
    report.tailRecovered = false → report'.tailRecovered = false → SameAnswers brief full

end Definitions

section Answers

variable [StdSort] {s : State} {record : ModuleRecord}

/-- With its flags set, a module is written alike with and without history
(source `encode_module`). -/
lemma stored_of_flagged (flagged : record.Flagged) : record.stored false = record.stored true := by
  have claims : record.claims.filter (fun c => false || c.live) = record.claims :=
    List.filter_eq_self.2 flagged.claims
  have declarations : record.declarations.filter (fun d => false || d.live) = record.declarations :=
    List.filter_eq_self.2 flagged.declarations
  have all {α : Type} (l : List α) (live : α → Bool) : l.filter (fun a => true || live a) = l :=
    List.filter_eq_self.2 fun _ _ => rfl
  rw [ModuleRecord.stored, ModuleRecord.stored, claims, declarations, all, all]

/-- With their flags set, the modules that are read back do not depend on the history
(source `parse_snapshot`). -/
lemma reread_of_flags (flags : FlagsSet s.modules) :
    s.reread false = { s.reread true with thresholds := (s.reread false).thresholds } := by
  have same : ((StdSort.sort (fun lhs rhs : ModuleRecord => decide (lhs.uid < rhs.uid))
      s.modules.values).map fun record => (record.stored false).restored) =
      (StdSort.sort (fun lhs rhs : ModuleRecord => decide (lhs.uid < rhs.uid))
        s.modules.values).map fun record => (record.stored true).restored := by
    refine List.map_congr_left fun record member => ?_
    obtain ⟨uid, found⟩ := mem_values.1 ((StdSort.perm _ _).subset member)
    rw [stored_of_flagged (flags uid record found)]
  have modules : (s.reread false).modules = (s.reread true).modules :=
    congrArg (insertAll ModuleRecord.uid · ∅) same
  have names : (s.reread false).moduleUidByKey = (s.reread true).moduleUidByKey :=
    congrArg (nameAll ModuleRecord.uid (fun record : ModuleRecord => record.key.str) · ∅) same
  have parts : s.reread false = { s.reread true with
      modules := (s.reread false).modules
      moduleUidByKey := (s.reread false).moduleUidByKey
      thresholds := (s.reread false).thresholds } := rfl
  rw [parts, modules, names]

/-- The thresholds in force are read back with and without history (source `live_thresholds`). -/
lemma liveThresholds_reread : liveThresholds (s.reread false) = liveThresholds (s.reread true) := by
  have each (includeHistory : Bool) : liveThresholds (s.reread includeHistory) =
      ((s.thresholds.filter (·.live)).map ThresholdRecord.restored).map (·.threshold) := by
    show (((s.thresholds.filter fun record => includeHistory || record.live).map
      ThresholdRecord.restored).filter (·.live)).map (·.threshold) = _
    rw [List.filter_map, List.filter_filter]
    congr 2
    refine List.filter_congr fun record _ => ?_
    show (record.live && (includeHistory || record.live)) = record.live
    cases record.live <;> cases includeHistory <;> rfl
  rw [each, each]

omit [StdSort] in
/-- What a load does after the parse reads only the thresholds in force (source `load_snapshot`). -/
lemma restore_of_liveThresholds {parsed : State} {thresholds : List ThresholdRecord} (now : WallNs)
    (live : liveThresholds { parsed with thresholds } = liveThresholds parsed) :
    State.restore { parsed with thresholds } now = { parsed.restore now with thresholds } := by
  have holds (record : ModuleRecord) :
      record.revalidate { parsed with thresholds } now = record.revalidate parsed now := by
    have latches (latch : HealthLatchRecord) :
        latchHolds { parsed with thresholds } now record latch =
          latchHolds parsed now record latch := by
      rw [latchHolds, live]
      rfl
    simp only [ModuleRecord.revalidate, latches]
  have same : revalidateEvidence { parsed with thresholds } now =
      { revalidateEvidence parsed now with thresholds } := by
    simp only [revalidateEvidence, holds]
  rw [State.restore, same]
  rfl

/-- With the flags of a state set, the registries that load what is saved of it with and without
history answer alike (source `load_snapshot`). -/
lemma sameAnswers_reread (flags : FlagsSet s.modules) (now : WallNs) :
    SameAnswers ((s.reread false).restore now) ((s.reread true).restore now) := by
  have live := liveThresholds_reread (s := s)
  rw [reread_of_flags flags] at live ⊢
  rw [restore_of_liveThresholds now live]
  exact ⟨fun _ => rfl, fun _ => rfl, fun _ _ _ => rfl⟩

/-- With its flags set, everything of a module is written without history
(source `encode_module`). -/
lemma mem_stored_of_flagged (flagged : record.Flagged) :
    (∀ claim, claim ∈ (record.stored false).claims ↔ claim ∈ record.claims) ∧
      ∀ declaration, declaration ∈ (record.stored false).declarations ↔
        declaration ∈ record.declarations := by
  constructor
  · intro claim
    refine (StdSort.perm _ _).mem_iff.trans (List.mem_filter.trans (and_iff_left_of_imp ?_))
    exact flagged.claims claim
  · intro declaration
    refine (StdSort.perm _ _).mem_iff.trans (List.mem_filter.trans (and_iff_left_of_imp ?_))
    exact flagged.declarations declaration

/-- What is written of a module without history is current exactly when the module holds nothing
else (source `encode_module`). -/
lemma writesCurrent_iff (flagged : record.Flagged) : record.WritesCurrent s ↔ record.Current s := by
  obtain ⟨claims, declarations⟩ := mem_stored_of_flagged flagged
  constructor
  · intro writes
    refine ⟨fun claim member => ?_, fun declaration member => ?_⟩
    · exact ((writes.claims claim).1 ((claims claim).2 member)).2
    · exact ((writes.declarations declaration).1 ((declarations declaration).2 member)).2
  · intro current
    refine ⟨fun claim => ?_, fun declaration => ?_⟩
    · rw [claims, and_iff_left_of_imp (current.claims claim)]
    · rw [declarations, and_iff_left_of_imp (current.declarations declaration)]

/-- With the flags of a state set, what is saved without history is current exactly when the modules
hold nothing else (source `encode_state_records`). -/
lemma savesCurrent_iff (flags : FlagsSet s.modules) : SavesCurrent s ↔
    ∀ (uid : ModuleUid) record, s.modules[uid]? = some record → record.Current s := by
  constructor
  · intro saves uid record found
    exact (writesCurrent_iff (flags uid record found)).1 (saves.records uid record found)
  · intro current
    refine ⟨fun uid record found =>
      (writesCurrent_iff (flags uid record found)).2 (current uid record found), ?_⟩
    intro clock options blank brief full report report' read read' whole whole'
    obtain rfl := loadSnapshot_whole read whole
    obtain rfl := loadSnapshot_whole read' whole'
    exact sameAnswers_reread flags _

end Answers

section Runs

variable [StdSort] {saved parsed s : State} {includeHistory : Bool} {config : RegistryConfig}
  {w : Deployment}

/-- A load does not clear a flag (source `decode_module`). -/
lemma Rebuilt.flags (rebuilt : Rebuilt saved includeHistory parsed)
    (flags : FlagsSet saved.modules) : FlagsSet parsed.modules := by
  cases rebuilt with
  | blank => exact .empty
  | @front c front =>
    intro uid record found
    obtain ⟨member, _⟩ := getElem?_insertAll_empty found
    obtain ⟨r, kept, rfl⟩ := List.mem_map.1 member
    have written := (StdSort.perm _ _).subset (front.modules.subset kept)
    obtain ⟨i, held⟩ := mem_values.1 written
    have flagged := flags i r held
    refine ⟨fun claim member => ?_, fun declaration member => ?_⟩
    · have member := (StdSort.perm _ _).subset member
      exact flagged.claims claim (List.mem_of_mem_filter member)
    · have member := (StdSort.perm _ _).subset member
      exact flagged.declarations declaration (List.mem_of_mem_filter member)

omit [StdSort] in
/-- What a load does after the parse does not clear a flag (source `load_snapshot`). -/
lemma FlagsSet.restore (flags : FlagsSet parsed.modules) (now : WallNs) :
    FlagsSet (parsed.restore now).modules := by
  intro uid record found
  have found : (parsed.modules.map fun _ record => record.revalidate parsed now)[uid]? =
      some record := found
  rw [Std.ExtTreeMap.getElem?_map] at found
  obtain ⟨before, held, rfl⟩ := Option.map_eq_some_iff.1 found
  exact ⟨(flags uid before held).claims, (flags uid before held).declarations⟩

/-- In every state that operations, saves, crashes and loads reach, all flags are set. -/
lemma flagsSet_of_run
    (reached : Run Deployment.step Unguarded (Deployment.fresh config) w) :
    FlagsSet w.registry.modules :=
  Run.deployed (P := fun s => FlagsSet s.modules) reached .empty
    (fun _ _ _ _ taken flags => flags.step taken)
    fun _ _ _ now rebuilt flags => (rebuilt.flags flags).restore now

/-- In every state that operations, saves, crashes and loads reach: what is saved without history is
exactly the current knowledge, and a registry that it is loaded into gives the answers of one that
loads the whole history, if and only if the modules hold no superseded claim or declaration (source
`SaveOptions::include_history`). -/
theorem saves_current_iff
    (reached : Run Deployment.step Unguarded (Deployment.fresh config) w) :
    SavesCurrent w.registry ↔
      ∀ (uid : ModuleUid) record, w.registry.modules[uid]? = some record →
        record.Current w.registry :=
  savesCurrent_iff (flagsSet_of_run reached)

end Runs

/-- Every module has a declaration that is live, and no other statement. -/
def showsCurrent (s : State) : Bool :=
  s.modules.values.all fun record => record.claims.isEmpty && record.declarations.length = 1 &&
    record.declarations.all (isLiveDeclaration s record)

/-- A registry with a single declaration is saved as it is. -/
theorem saves_current_iff_declared : ∃ w : Deployment, (w.registry.modules[(1 : UInt64)]?).isSome ∧
    SavesCurrent w.registry := by
  have declared : (runActions Deployment.step [.call registerHost,
      .call (registerBay bayA .ensureCurrent), .call (declareTelemetry true)]
      (Deployment.fresh {})).any (fun w => (w.registry.modules[(1 : UInt64)]?).isSome &&
        showsCurrent w.registry) = true := by decide +kernel
  obtain ⟨w, reached, shows⟩ := Run.exists_ofActions declared
  obtain ⟨known, shows⟩ := Bool.and_eq_true_iff.1 shows
  refine ⟨w, known, (saves_current_iff reached).2 fun uid record found => ?_⟩
  have current := List.all_eq_true.1 shows record (mem_values.2 ⟨uid, found⟩)
  simp only [Bool.and_eq_true, List.isEmpty_iff, List.all_eq_true] at current
  obtain ⟨⟨none, _⟩, live⟩ := current
  refine ⟨fun claim member => ?_, live⟩
  rw [none] at member
  exact (List.not_mem_nil member).elim

/-- A declaration that was revised is still saved without history
(source `SaveOptions::include_history`). -/
theorem superseded_saved : ¬ ∀ (config : RegistryConfig) (w : Deployment),
    Run Deployment.step Unguarded (Deployment.fresh config) w → SavesCurrent w.registry := by
  intro saves
  have revised : (runActions Deployment.step [.call registerHost,
      .call (registerBay bayA .ensureCurrent), .call (declareTelemetry true),
      .call (declareTelemetry false)] (Deployment.fresh {})).any (fun w =>
        w.registry.modules[(1 : UInt64)]?.any fun record =>
          record.declarations.any fun d => !isLiveDeclaration w.registry record d) = true := by
    decide +kernel
  obtain ⟨w, reached, shows⟩ := Run.exists_ofActions revised
  obtain ⟨record, found, shows⟩ := (Option.any_eq_true _ _).1 shows
  obtain ⟨declaration, member, superseded⟩ := List.any_eq_true.1 shows
  have current := (savesCurrent_iff (flagsSet_of_run reached)).1 (saves {} w reached) 1 record found
  rw [current.declarations declaration member] at superseded
  cases superseded

end TransceiverRegistry
