import TransceiverRegistry.Lib.Tables
import TransceiverRegistry.Registry.Frame
import TransceiverRegistry.Registry.TableStep

/-!
# Stored and dropped samples

A trim removes a sample together with one count of the dropped samples, so an operation changes the
number of stored samples and the counter by what it ingests. The uids of the modules are the ones the
counter issued, so a registration does not write over samples.
-/

namespace TransceiverRegistry

open Lib

/-- The number of samples stored over all modules. -/
def State.storedSamples (s : State) : Nat :=
  totalOf (fun record : ModuleRecord => record.samples.length) s.modules

/-- The samples of a module were trimmed by a number of samples, each counted as dropped. -/
structure Evicts (before after : SampleTrim) (evicted : Nat) : Prop where
  samples : after.samples.length + evicted = before.samples.length
  dropped : after.droppedSamples = before.droppedSamples + UInt64.ofNat evicted

/-- The samples that were ingested are stored or counted as dropped. -/
structure Accounts (s s' : State) (ingested evicted : Nat) : Prop where
  samples : s'.storedSamples + evicted = s.storedSamples + ingested
  dropped : s'.droppedSamples = s.droppedSamples + UInt64.ofNat evicted

section Trim

variable {before between after : SampleTrim} {evicted more : Nat}

/-- Nothing is trimmed. -/
lemma Evicts.refl (trim : SampleTrim) : Evicts trim trim 0 := ⟨rfl, (UInt64.add_zero _).symm⟩

/-- One trim after the other. -/
lemma Evicts.trans (first : Evicts before between evicted) (second : Evicts between after more) :
    Evicts before after (evicted + more) where
  samples := by
    have sizes := first.samples
    have sizes' := second.samples
    omega
  dropped := by rw [second.dropped, first.dropped, UInt64.ofNat_add, UInt64.add_assoc]

/-- A series is trimmed one sample at a time (source `trim_samples`, the loop over one entry). -/
lemma exists_evicts_trimSeries (limit : UInt32) (series : SeriesKey) (count : Nat)
    (trim : SampleTrim) : ∃ evicted, Evicts trim (trimSeries limit series count trim) evicted := by
  induction count generalizing trim with
  | zero => exact ⟨0, .refl trim⟩
  | succ count ih =>
    unfold trimSeries
    split
    · rename_i more
      obtain ⟨rest, later⟩ := ih {
        samples := trim.samples.eraseP (·.inSeries series)
        seriesCounts := trim.seriesCounts.insert series (UInt32.ofNat count)
        droppedSamples := trim.droppedSamples + 1 }
      refine ⟨1 + rest, Evicts.trans ⟨?_, rfl⟩ later⟩
      have present := List.length_pos_of_mem (List.any_eq_true.1 more.2).choose_spec.1
      dsimp only
      rw [List.length_eraseP, if_pos more.2]
      omega
    · exact ⟨0, .refl trim⟩

/-- Several series are trimmed one after the other (source `trim_samples`, the first loop). -/
lemma exists_evicts_foldl (limit : UInt32) (entries : List (SeriesKey × UInt32))
    (trim : SampleTrim) : ∃ evicted, Evicts trim
      (entries.foldl (fun acc entry => trimSeries limit entry.1 entry.2.toNat acc) trim)
      evicted := by
  induction entries generalizing trim with
  | nil => exact ⟨0, .refl trim⟩
  | cons entry rest ih =>
    obtain ⟨first, now⟩ := exists_evicts_trimSeries limit entry.1 entry.2.toNat trim
    obtain ⟨others, later⟩ := ih (trimSeries limit entry.1 entry.2.toNat trim)
    exact ⟨first + others, now.trans later⟩

/-- Every sample that is trimmed is counted as dropped (source `trim_samples`). -/
lemma exists_evicts_trimSamples (config : RegistryConfig) (trim : SampleTrim) :
    ∃ evicted, Evicts trim (trimSamples config trim) evicted := by
  obtain ⟨bySeries, first⟩ :=
    exists_evicts_foldl config.maxSamplesPerSeries trim.seriesCounts.toList trim
  refine ⟨_, first.trans ⟨?_, rfl⟩⟩
  show (List.drop _ _).length + _ = _
  rw [List.length_drop]
  omega

end Trim

section Step

variable {config : RegistryConfig} {clock : Clock} {s s' next : State}
  {generation : Generation} {sequence : Sequence}

/-- Nothing is ingested or dropped. -/
lemma Accounts.same (modules : s'.modules = s.modules)
    (dropped : s'.droppedSamples = s.droppedSamples) : Accounts s s' 0 0 where
  samples := by rw [State.storedSamples, modules]; rfl
  dropped := dropped.trans (UInt64.add_zero _).symm

/-- The samples of a module are written with the counter of the dropped ones. -/
lemma Accounts.replace {uid : ModuleUid} {record record' : ModuleRecord} {ingested evicted : Nat}
    (found : s.modules[uid]? = some record) (written : s'.modules = s.modules.insert uid record')
    (samples : record'.samples.length + evicted = record.samples.length + ingested)
    (dropped : s'.droppedSamples = s.droppedSamples + UInt64.ofNat evicted) :
    Accounts s s' ingested evicted where
  samples := by
    have total : s'.storedSamples + record.samples.length =
        s.storedSamples + record'.samples.length := by
      rw [State.storedSamples, written]
      exact totalOf_insert found
    omega
  dropped := dropped

/-- A module is written with the samples it had. -/
lemma Accounts.rewrite {uid : ModuleUid} {record record' : ModuleRecord}
    (found : s.modules[uid]? = some record) (written : s'.modules = s.modules.insert uid record')
    (samples : record'.samples = record.samples)
    (dropped : s'.droppedSamples = s.droppedSamples) : Accounts s s' 0 0 :=
  .replace found written (by rw [samples]) (dropped.trans (UInt64.add_zero _).symm)

/-- A module without samples is added. -/
lemma Accounts.add {uid : ModuleUid} {record : ModuleRecord} (absent : s.modules[uid]? = none)
    (written : s'.modules = s.modules.insert uid record) (samples : record.samples = [])
    (dropped : s'.droppedSamples = s.droppedSamples) : Accounts s s' 0 0 where
  samples := by
    have total : s'.storedSamples = record.samples.length + s.storedSamples := by
      rw [State.storedSamples, written]
      exact totalOf_insert_new absent
    rw [total, samples, List.length_nil]
    omega
  dropped := dropped.trans (UInt64.add_zero _).symm

/-- An ingestion stores its sample and drops the ones it evicts
(source `Registry::ingest_health`). -/
lemma ingestHealthBody_accounts {authority : AuthorityToken} {module : ModuleHandle}
    {sample : HealthSampleInput} {now : WallNs} {u : Unit}
    (run : ingestHealthBody config clock authority module sample now s generation sequence =
      .ok (next, u)) : ∃ evicted, Accounts s next 1 evicted := by
  obtain ⟨_, record, stored, latches, found, _, _, _, _, trim, trims, rfl⟩ :=
    ingestHealthBody_inv run
  obtain ⟨evicted, balance⟩ := exists_evicts_trimSamples config ⟨record.samples ++ [stored],
    countSample record.seriesCounts (seriesKey sample.metric sample.lane), s.droppedSamples⟩
  rw [← trims] at balance
  refine ⟨evicted, .replace found rfl ?_ balance.dropped⟩
  exact balance.samples.trans List.length_append

variable [StdSort]

/-- Another call keeps the samples that are stored. -/
lemma step_accounts_other (fresh : s.nextModuleUid ∉ s.modules) {call : Call}
    (other : call.operation.ingests = false) (taken : step config s call = some s') :
    Accounts s s' 0 0 := by
  have moved := moduleStep_of_fresh fresh taken
  have dropped : s'.droppedSamples = s.droppedSamples := by
    obtain ⟨_, next, run, rfl⟩ := step_eq_some taken
    exact (framed_of_body run).droppedSamples other
  obtain ⟨operation, clock⟩ := call
  cases moved with
  | stay quiet written => exact .same written dropped
  | move quiet found same written => exact .rewrite found written same.samples dropped
  | registerModule _ _ locate _ same written =>
    cases locate with
    | fresh absent _ _ _ _ samples => exact .add absent written (same.samples.trans samples) dropped
    | current found located =>
      exact .rewrite found written (same.samples.trans located.samples) dropped
    | renewed found _ _ _ located =>
      exact .rewrite found written (same.samples.trans located.samples) dropped
  | updateIdentity _ found _ written => exact .rewrite found written rfl dropped
  | publishCapability _ found _ written => exact .rewrite found written rfl dropped
  | ingestHealth => cases other

/-- A committed call stores or drops what it ingests (source `RegistryImpl::mutate`). -/
lemma step_accounts (fresh : s.nextModuleUid ∉ s.modules) {call : Call}
    (taken : step config s call = some s') :
    ∃ evicted, Accounts s s' call.operation.ingests.toNat evicted := by
  cases kind : call.operation.ingests with
  | false => exact ⟨0, step_accounts_other fresh kind taken⟩
  | true =>
    obtain ⟨_, next, run, rfl⟩ := step_eq_some taken
    obtain ⟨operation, clock⟩ := call
    cases operation <;> cases kind
    rw [Operation.body, fst_map_eq_ok] at run
    obtain ⟨_, run⟩ := run
    obtain ⟨evicted, accounts⟩ := ingestHealthBody_accounts run
    exact ⟨evicted, accounts.samples, accounts.dropped⟩

end Step

/-- The modules are stored under the uids that the counter issued, and the counter is far from its
end. -/
structure ModulesIssued (s : State) : Prop where
  uid : Keyed ModuleRecord.uid s.modules
  number : Numbered UInt64.toNat s.nextModuleUid.toNat s.modules
  room : s.modules.size < 2 ^ 32

section Issued

variable {config : RegistryConfig} {s s' next : State}
  {generation : Generation} {sequence : Sequence}

/-- A fresh registry has issued no uid. -/
lemma ModulesIssued.initial : ModulesIssued State.initial :=
  ⟨Keyed.empty, Numbered.empty, by decide⟩

/-- The next uid is not taken (source `State::next_module_uid`). -/
lemma ModulesIssued.fresh (issued : ModulesIssued s) : s.nextModuleUid ∉ s.modules :=
  issued.number.fresh rfl

/-- The counter is not above the number of modules (source `State::next_module_uid`). -/
lemma ModulesIssued.counter (issued : ModulesIssued s) : s.nextModuleUid.toNat ≤ 2 ^ 32 := by
  have next := issued.number.next_eq
  have room := issued.room
  omega

variable [StdSort]

/-- What an operation does to the tables keeps the uids. -/
lemma ModulesIssued.tableStep (issued : ModulesIssued s)
    (taken : TableStep config s generation sequence next) : ModulesIssued next := by
  cases taken with
  | renewSource => exact ⟨issued.uid, issued.number, issued.room⟩
  | addSource => exact ⟨issued.uid, issued.number, issued.room⟩
  | addModule unnamed room own empty rewrites =>
    have counter := issued.counter
    have next : (s.nextModuleUid + 1).toNat = s.nextModuleUid.toNat + 1 := by
      rw [UInt64.toNat_add, UInt64.toNat_one]
      exact Nat.mod_eq_of_lt (Nat.lt_of_le_of_lt (Nat.add_le_add_right counter 1) (by decide))
    constructor
    · exact issued.uid.insert own
    · show Numbered _ (s.nextModuleUid + 1).toNat _
      rw [next]
      exact issued.number.add rfl _
    · show (s.modules.insert _ _).size < _
      rw [size_insert_of_not_mem issued.fresh]
      exact Nat.lt_of_le_of_lt room config.maxModules.toNat_lt
  | setModule found rewrites =>
    constructor
    · exact issued.uid.insert (rewrites.uid.trans (issued.uid _ _ found))
    · exact issued.number.replace (mem_of_getElem? found) _
    · show (s.modules.insert _ _).size < _
      rw [size_insert_of_mem (mem_of_getElem? found)]
      exact issued.room
  | slots => exact ⟨issued.uid, issued.number, issued.room⟩
  | port => exact ⟨issued.uid, issued.number, issued.room⟩
  | threshold => exact ⟨issued.uid, issued.number, issued.room⟩
  | addRule => exact ⟨issued.uid, issued.number, issued.room⟩
  | setRule => exact ⟨issued.uid, issued.number, issued.room⟩

/-- A step keeps the uids (source `RegistryImpl::mutate`). -/
lemma ModulesIssued.step {call : Call} (issued : ModulesIssued s)
    (taken : step config s call = some s') : ModulesIssued s' := by
  obtain ⟨next, written, rfl⟩ := step_tableStep taken
  have kept : ModulesIssued next :=
    ModulesIssued.tableStep (s := (nextSequence s).2) ⟨issued.uid, issued.number, issued.room⟩
      written
  exact ⟨kept.uid, kept.number, kept.room⟩

end Issued

end TransceiverRegistry
