import TransceiverRegistry.Registry.Bounds
import TransceiverRegistry.Registry.Budget
import TransceiverRegistry.Registry.Eviction
import TransceiverRegistry.Registry.Samples
import TransceiverRegistry.Snapshot.Lineage

/-!
# Samples across restarts

Every ingestion that a registry committed, along the operations and the snapshots that led to it, is a
stored sample or a count of the dropped samples, up to the width of the counter. The counter is 64 bits
wide, and is written as a signed number.
-/

namespace TransceiverRegistry

open Lib

/-- The ingestions that were committed, with one more call. -/
def countIngestion (_ : State) (call : Call) (_ : State) (commits : Nat) : Nat :=
  commits + call.operation.ingests.toNat

/-- A state whose counter of the dropped samples is held by a file (source `codec::integer`). -/
def holdsDropped (s : State) : Bool := s.droppedSamples.toNat < 2 ^ 63

/-- Every process is allowed. -/
def anyConfig (_ : RegistryConfig) : Bool := true

section Steps

variable [StdSort]

/-- Every ingestion is a stored sample or was counted as dropped, while the counter is wide enough. -/
def Balanced (s : State) (commits : Nat) : Prop :=
  commits < 2 ^ 64 → s.storedSamples + s.droppedSamples.toNat = commits

variable {config : RegistryConfig} {s s' : State} {includeHistory : Bool} {now : WallNs}
  {commits ingested evicted : Nat} {w : Lineage Nat}

/-- A registry that is loaded has the modules of the saved one, each as it is read back and with its
latches revised (source `load_snapshot`). -/
lemma reloaded_modules (keyed : Keyed ModuleRecord.uid s.modules) :
    ((s.reread includeHistory).restore now).modules = s.modules.map fun _ record =>
      (record.stored includeHistory).restored.revalidate (s.reread includeHistory) now := by
  show (s.reread includeHistory).modules.map _ = _
  rw [State.reread_modules keyed]
  ext1 uid
  simp only [Std.ExtTreeMap.getElem?_map, Option.map_map]
  rfl

/-- A load keeps the uids (source `load_snapshot`). -/
lemma ModulesIssued.reload (issued : ModulesIssued s) :
    ModulesIssued ((s.reread includeHistory).restore now) := by
  have modules : ((s.reread includeHistory).restore now).modules = _ := reloaded_modules issued.uid
  have counter : ((s.reread includeHistory).restore now).nextModuleUid = s.nextModuleUid :=
    if_pos (Nat.lt_of_le_of_lt issued.counter (by decide))
  constructor
  · rw [modules]
    exact issued.uid.map fun _ _ => rfl
  · rw [modules, counter]
    refine ⟨?_, fun uid member => issued.number.range uid (Std.ExtTreeMap.mem_map.1 member)⟩
    rw [Std.ExtTreeMap.size_map]
    exact issued.number.next_eq
  · rw [modules, Std.ExtTreeMap.size_map]
    exact issued.room

/-- A load keeps the samples (source `encode_module`, `decode_module`). -/
lemma reloaded_storedSamples (keyed : Keyed ModuleRecord.uid s.modules) :
    ((s.reread includeHistory).restore now).storedSamples = s.storedSamples := by
  rw [State.storedSamples, reloaded_modules keyed]
  exact totalOf_map fun _ record => (StdSort.perm sampleBefore record.samples).length_eq

omit [StdSort] in
/-- An operation that stores or drops what it ingests keeps the balance. -/
lemma Balanced.accounts (balanced : Balanced s commits) (accounts : Accounts s s' ingested evicted) :
    Balanced s' (commits + ingested) := by
  intro small
  have before := balanced (Nat.lt_of_le_of_lt (Nat.le_add_right _ _) small)
  have samples := accounts.samples
  rw [accounts.dropped, UInt64.toNat_add, UInt64.toNat_ofNat', Nat.add_mod_mod,
    Nat.mod_eq_of_lt (by omega)]
  omega

/-- A load of a file that holds the counter keeps the balance. -/
lemma Balanced.reload (balanced : Balanced s commits) (keyed : Keyed ModuleRecord.uid s.modules)
    (held : s.droppedSamples.toNat < 2 ^ 63) :
    Balanced ((s.reread includeHistory).restore now) commits := by
  intro small
  have dropped : ((s.reread includeHistory).restore now).droppedSamples = s.droppedSamples :=
    if_pos held
  rw [reloaded_storedSamples keyed, dropped]
  exact balanced small

/-- In every state that operations, saves, crashes and loads of whole files reach: while fewer than
2^64 ingestions led to it, and every snapshot was saved while the counter of the dropped samples was
below 2^63, the samples stored over all modules and the dropped samples are these ingestions
(source `State::dropped_samples`). -/
theorem samples_accounted
    (reached : Run (Lineage.step 0 countIngestion)
      (fun w event => keepsLineage holdsDropped anyConfig w event = true) (.fresh 0 config) w)
    (small : w.account < 2 ^ 64) :
    w.process.registry.storedSamples + w.process.registry.droppedSamples.toNat = w.account := by
  have audited : ModulesIssued w.process.registry ∧ Balanced w.process.registry w.account := by
    refine Run.lineage (P := fun s commits => ModulesIssued s ∧ Balanced s commits) reached rfl
      ⟨.initial, fun _ => rfl⟩ ?_ ?_
    · rintro config s call s' commits _ taken ⟨issued, balanced⟩
      obtain ⟨evicted, accounts⟩ := step_accounts issued.fresh taken
      exact ⟨issued.step taken, balanced.accounts accounts⟩
    · rintro s includeHistory now commits held ⟨issued, balanced⟩
      exact ⟨issued.reload, balanced.reload issued.uid (of_decide_eq_true held)⟩
  exact audited.2 small

end Steps

set_option maxRecDepth 20000 in
/-- After a save, a crash and a load a second reading evicts the first one, and both are accounted
for. -/
theorem samples_accounted_reloaded :
    ∃ w : Lineage Nat, w.process.registry.droppedSamples = 1 ∧ w.account = 2 ∧
      w.process.registry.storedSamples + w.process.registry.droppedSamples.toNat = w.account := by
  have reloaded : (runGuarded (Lineage.step 0 countIngestion) (keepsLineage holdsDropped anyConfig)
      [.call registerHost, .save true, .crash oneSample, .load 0 {} stillClock,
        .call (registerBay bayA .ensureCurrent), .call (reading .temperatureCelsius 1 1),
        .call (reading .supplyVoltageVolts 2 1)] (.fresh 0 oneSample)).any
      (fun w => w.process.registry.droppedSamples = 1 && w.account = 2) = true := by decide +kernel
  obtain ⟨w, reached, shows⟩ := Run.exists_ofGuarded reloaded
  simp only [Bool.and_eq_true, decide_eq_true_eq] at shows
  obtain ⟨dropped, commits⟩ := shows
  exact ⟨w, dropped, commits, samples_accounted reached (by rw [commits]; decide)⟩

section Wrap

/-- The first module, under its current incarnation. -/
def firstModule : ModuleHandle := ⟨1, 1, 0, bayA⟩

/-- A reading of the temperature without a monotonic time. -/
def untimedReading : HealthSampleInput :=
  ⟨.temperatureCelsius, kModuleLane, .present, .ofInt 1, 1, 0, 2, hostEvidence⟩

/-- Ingest the reading. -/
def ingestUntimed : Call :=
  Operation.now (.ingestHealth host firstModule untimedReading .autoRetry)

/-- The readings of the first module can be ingested. -/
def ReadyForReadings (s : State) : Prop := ∃ record, Ready s host firstModule .autoRetry record

variable {s : State}

/-- A reading without a monotonic time can be ingested again and again
(source `Registry::ingest_health`). -/
lemma ReadyForReadings.ingest (ready : ReadyForReadings s) :
    ∃ s', step {} s ingestUntimed = some s' ∧ ReadyForReadings s' := by
  obtain ⟨record, ready⟩ := ready
  have body : ∃ next record', ingestHealthBody {} stillClock host firstModule untimedReading
      (stillClock.wallNowNs 0) (nextSequence s).2 (s.generation + 1) (nextSequence s).1 =
        .ok (next, ()) ∧ next.sources = s.sources ∧
      next.modules = s.modules.insert firstModule.uid record' ∧
      record'.incarnation = record.incarnation := by
    rw [ingestHealthBody, ready.currentModule, ok_bind]
    exact ⟨_, _, bind_eq_ok.2 ⟨(), refuseIf_eq_ok.2 fun replayed => replayed.1 rfl, rfl⟩, rfl, rfl,
      rfl⟩
  obtain ⟨next, record', body, sources, modules, same⟩ := body
  have valid : validateSample {} untimedReading = .ok () := by decide +kernel
  have ran : ingestHealth {} stillClock host firstModule untimedReading .autoRetry s =
      .ok (next.publish (s.generation + 1), ()) := by
    rw [ingestHealth, valid, ok_bind]
    exact bind_eq_ok.2 ⟨(), refuseIf_eq_ok.2 (by decide),
      mutate_eq_ok.2 ⟨ready.fence, next, body, rfl⟩⟩
  refine ⟨next.publish (s.generation + 1), ?_, record', ?_, ?_, same.trans ready.current, ?_⟩
  · simp only [step, Call.run, ingestUntimed, Operation.now, ran]
    rfl
  · have authority := ready.authority
    rw [requireAuthority] at authority ⊢
    rwa [← sources] at authority
  · show next.modules[firstModule.uid]? = _
    rw [modules]
    exact Std.ExtTreeMap.getElem?_insert_self
  · exact fun fenced => Bool.false_ne_true fenced.1

/-- Readings are ingested any number of times: the run of the registry, and its lineage. -/
lemma exists_ingestions (n : Nat) {w : Lineage Nat}
    (standard : w.process.config = {}) (ready : ReadyForReadings w.process.registry) :
    ∃ w', Run (Lineage.step 0 countIngestion) (fun w event =>
        keepsLineage (fun _ => true) anyConfig w event = true) w w' ∧
      Run (step {}) Unguarded w.process.registry w'.process.registry ∧
      w'.process.config = {} ∧ ReadyForReadings w'.process.registry ∧
      w'.account = w.account + n := by
  induction n with
  | zero => exact ⟨w, .start, .start, standard, ready, rfl⟩
  | succ n ih =>
    obtain ⟨w', lineage, registry, standard', ready', commits⟩ := ih
    obtain ⟨s', taken, again⟩ := ready'.ingest
    have moved : w'.step 0 countIngestion (.call ingestUntimed) = _ :=
      Lineage.step_call (standard'.symm ▸ taken)
    refine ⟨_, lineage.next rfl moved, registry.next trivial taken, standard', again, ?_⟩
    show w'.account + 1 = _
    rw [commits, Nat.add_assoc]

/-- A state that shows the first source and the first module. -/
def showsFirst (s : State) : Bool :=
  decide (requireAuthority s host = .ok ()) &&
    s.modules[(1 : UInt64)]?.any fun record => record.incarnation = 1

set_option maxRecDepth 20000 in
/-- After 2^65 ingestions the counter of the dropped samples has wrapped: 64 bits and the samples of
all modules cannot hold them (source `State::dropped_samples`). -/
theorem dropped_samples_wrap :
    ¬ ∀ (config : RegistryConfig) (w : Lineage Nat), Run (Lineage.step 0 countIngestion)
        (fun w event => keepsLineage (fun _ => true) anyConfig w event = true) (.fresh 0 config) w →
      w.process.registry.storedSamples + w.process.registry.droppedSamples.toNat = w.account := by
  intro h
  have started : (runActions (step {}) [registerHost, registerBay bayA .ensureCurrent]
      State.initial).any showsFirst = true := by decide +kernel
  obtain ⟨s, reached, shows⟩ := Run.exists_ofActions started
  simp only [showsFirst, Bool.and_eq_true, decide_eq_true_eq, Option.any_eq_true] at shows
  obtain ⟨authority, record, found, first⟩ := shows
  have ready : ReadyForReadings s :=
    ⟨record, authority, found, first, fun fenced => Bool.false_ne_true fenced.1⟩
  obtain ⟨w, lineage, process⟩ := exists_lineage reached
  obtain ⟨w', ingestions, registry, _, _, commits⟩ :=
    exists_ingestions (2 ^ 65) (w := w) (by rw [process]) (by rwa [process])
  have balance := h {} w' (lineage.trans ingestions)
  rw [process] at registry
  have reached' := reached.trans registry
  have wide := w'.process.registry.droppedSamples.toNat_lt
  have stored : w'.process.registry.storedSamples ≤ w'.process.registry.modules.size * 65536 :=
    totalOf_le fun uid record found => ((Bounded.run reached').modules uid record found).samples
  have few : w'.process.registry.modules.size ≤ 4096 := (Coherent.run reached').modules.room
  omega

end Wrap

end TransceiverRegistry
