import TransceiverRegistry.Lib.Keyed
import TransceiverRegistry.Registry.Inversion

/-!
# Coherence of the tables

The invariant that holds the tables of a state together: each record is stored under its own id or
key, the ids are the ones the counters issued, the two indexes find exactly the records by name and
by key, and every slot names a registered module. Every step of the registry keeps it.
-/

namespace TransceiverRegistry

open Lib

/-- The sources and their names (source `State::sources`). -/
structure SourceTables (next : UInt64) (index : Std.ExtTreeMap Bytes UInt32 compare)
    (sources : Std.ExtTreeMap UInt32 SourceRecord compare) : Prop where
  id : Keyed SourceRecord.id sources
  number : Numbered UInt32.toNat next.toNat sources
  room : next ≤ 0xFFFFFFFF
  index : Indexed SourceRecord.name index sources

/-- The modules and their keys (source `State::modules`). -/
structure ModuleTables (budget : UInt32) (next : UInt64)
    (index : Std.ExtTreeMap Bytes UInt64 compare)
    (modules : Std.ExtTreeMap UInt64 ModuleRecord compare) : Prop where
  uid : Keyed ModuleRecord.uid modules
  number : Numbered UInt64.toNat next.toNat modules
  room : modules.size ≤ budget.toNat
  index : Indexed (fun record : ModuleRecord => record.key.str) index modules

/-- The slots and the modules they name (source `State::attachments`). -/
structure SlotTable (attachments : Std.ExtTreeMap Bytes AttachmentRecord compare)
    (modules : Std.ExtTreeMap UInt64 ModuleRecord compare) : Prop where
  key : Keyed (fun attachment : AttachmentRecord => attachment.slot.str) attachments
  named : ∀ (k : Bytes) (a : AttachmentRecord), attachments[k]? = some a → a.uid ∈ modules

/-- The rules (source `State::rules`). -/
structure RuleTable (budget : UInt32) (next : UInt64)
    (rules : Std.ExtTreeMap UInt32 CompatRuleRecord compare) : Prop where
  id : Keyed CompatRuleRecord.id rules
  number : Numbered UInt32.toNat next.toNat rules
  room : rules.size ≤ budget.toNat

/-- The tables of a state fit together (source `State`). -/
structure Coherent (config : RegistryConfig) (s : State) : Prop where
  sources : SourceTables s.nextSourceId s.sourceIdByName s.sources
  modules : ModuleTables config.maxModules s.nextModuleUid s.moduleUidByKey s.modules
  ports : Keyed (fun record : PortRecord => record.key.str) s.ports
  slots : SlotTable s.attachments s.modules
  rules : RuleTable config.maxRules s.nextRuleId s.rules

/-- A fresh registry is coherent. -/
lemma Coherent.initial {config : RegistryConfig} : Coherent config State.initial where
  sources := ⟨Keyed.empty, Numbered.empty, by decide, Indexed.empty⟩
  modules := ⟨Keyed.empty, Numbered.empty, Nat.zero_le _, Indexed.empty⟩
  ports := Keyed.empty
  slots := ⟨Keyed.empty, fun k a found => by simp [State.initial] at found⟩
  rules := ⟨Keyed.empty, Numbered.empty, Nat.zero_le _⟩

/-- Replacing a record keeps the tables of the modules. -/
lemma ModuleTables.replace {budget : UInt32} {next : UInt64}
    {index : Std.ExtTreeMap Bytes UInt64 compare}
    {modules : Std.ExtTreeMap UInt64 ModuleRecord compare}
    (h : ModuleTables budget next index modules) {uid : ModuleUid} {record record' : ModuleRecord}
    (found : modules[uid]? = some record) (sameUid : record'.uid = record.uid)
    (sameKey : record'.key = record.key) :
    ModuleTables budget next index (modules.insert uid record') where
  uid := h.uid.insert (sameUid.trans (h.uid uid record found))
  number := h.number.replace (mem_of_getElem? found) record'
  room := by
    rw [size_insert_of_mem (mem_of_getElem? found)]
    exact h.room
  index := h.index.replace found (by rw [sameKey])

/-- The slots stay when a module is written. -/
lemma SlotTable.setModule {attachments : Std.ExtTreeMap Bytes AttachmentRecord compare}
    {modules : Std.ExtTreeMap UInt64 ModuleRecord compare} (h : SlotTable attachments modules)
    (uid : ModuleUid) (record : ModuleRecord) :
    SlotTable attachments (modules.insert uid record) where
  key := h.key
  named k a taken := by
    rw [Std.ExtTreeMap.mem_insert]
    exact .inr (h.named k a taken)

/-- A slot is written with the name of a registered module. -/
lemma SlotTable.setSlot {attachments : Std.ExtTreeMap Bytes AttachmentRecord compare}
    {modules : Std.ExtTreeMap UInt64 ModuleRecord compare} (h : SlotTable attachments modules)
    {attachment : AttachmentRecord} {k : Bytes} (own : attachment.slot.str = k)
    (known : attachment.uid ∈ modules) :
    SlotTable (attachments.insert k attachment) modules where
  key := h.key.insert own
  named j a taken := by
    obtain ⟨rfl, rfl⟩ | ⟨_, taken⟩ := getElem?_insert_iff.1 taken
    · exact known
    · exact h.named j a taken

/-- The slots stay when the slots of a module are released. -/
lemma SlotTable.release {attachments : Std.ExtTreeMap Bytes AttachmentRecord compare}
    {modules : Std.ExtTreeMap UInt64 ModuleRecord compare} (h : SlotTable attachments modules)
    (uid : ModuleUid) :
    SlotTable (attachments.map fun _ a => releaseAttachment uid a) modules := by
  have same (a : AttachmentRecord) :
      (releaseAttachment uid a).slot = a.slot ∧ (releaseAttachment uid a).uid = a.uid := by
    unfold releaseAttachment
    split <;> exact ⟨rfl, rfl⟩
  constructor
  · intro k a taken
    obtain ⟨b, stored, rfl⟩ := by simpa [Std.ExtTreeMap.getElem?_map] using taken
    show (releaseAttachment uid b).slot.str = k
    rw [(same b).1]
    exact h.key k b stored
  · intro k a taken
    obtain ⟨b, stored, rfl⟩ := by simpa [Std.ExtTreeMap.getElem?_map] using taken
    rw [(same b).2]
    exact h.named k b stored

variable {config : RegistryConfig} {s s' : State}

/-- A state with the same tables is as coherent (source `RegistryImpl::mutate`). -/
lemma Coherent.publish (h : Coherent config s) {generation : Generation} :
    Coherent config (s.publish generation) :=
  ⟨h.sources, h.modules, h.ports, h.slots, h.rules⟩

/-- Reserving a sequence number keeps the tables (source `next_sequence`). -/
lemma Coherent.nextSequence (h : Coherent config s) : Coherent config (nextSequence s).2 :=
  ⟨h.sources, h.modules, h.ports, h.slots, h.rules⟩

/-- Replacing the record of a module keeps a state coherent
(source `state.modules.at(uid) = record`). -/
lemma Coherent.setModule (h : Coherent config s) {uid : ModuleUid} {record record' : ModuleRecord}
    (found : s.modules[uid]? = some record)
    (same : record'.uid = record.uid ∧ record'.key = record.key) {dropped : UInt64} :
    Coherent config
      { s with modules := s.modules.insert uid record', droppedSamples := dropped } where
  sources := h.sources
  modules := h.modules.replace found same.1 same.2
  ports := h.ports
  slots := h.slots.setModule uid record'
  rules := h.rules

variable {clock : Clock} {generation : Generation} {sequence : Sequence}
  {authority : AuthorityToken} {module : ModuleHandle}

/-- Registering a source keeps a state coherent (source `Registry::register_source`). -/
lemma Coherent.registerSource (h : Coherent config s) {descriptor : SourceDescriptor}
    {handle : SourceHandle}
    (run : registerSourceBody config clock descriptor s generation sequence = .ok (s', handle)) :
    Coherent config s' := by
  obtain ⟨id, record, epoch, _, found, _, rfl⟩ | ⟨unnamed, _, ids, rfl⟩ :=
    registerSourceBody_inv run
  · have own := h.sources.id id record found
    subst own
    refine ⟨⟨h.sources.id.insert rfl, h.sources.number.replace (mem_of_getElem? found) _,
      h.sources.room, h.sources.index.replace found rfl⟩, h.modules, h.ports, h.slots, h.rules⟩
  · have small : s.nextSourceId.toNat < 0xFFFFFFFF := ids
    have number : s.nextSourceId.toUInt32.toNat = s.nextSourceId.toNat := by
      rw [UInt64.toNat_toUInt32]
      omega
    have next : (s.nextSourceId + 1).toNat = s.nextSourceId.toNat + 1 := by
      rw [UInt64.toNat_add]
      simp only [UInt64.toNat_one]
      omega
    refine ⟨⟨h.sources.id.insert rfl, ?_, ?_, ?_⟩, h.modules, h.ports, h.slots, h.rules⟩
    · rw [next]
      exact h.sources.number.add number _
    · rw [UInt64.le_iff_toNat_le, next]
      exact small
    · exact h.sources.index.add (h.sources.number.fresh number) rfl unnamed

/-- Settling keeps the identity of a module (source `Registry::register_module`, the second
lookup). -/
lemma settleDiscovered_same {now : WallNs} {record record' : ModuleRecord}
    (run : settleDiscovered authority generation sequence now record = .ok record') :
    record'.uid = record.uid ∧ record'.key = record.key ∧
      record'.incarnation = record.incarnation := by
  obtain ⟨_, rfl⟩ | ⟨_, rfl⟩ := settleDiscovered_inv run <;> exact ⟨rfl, rfl, rfl⟩

/-- The module a registration locates is in a coherent state under its own key
(source `Registry::register_module`, the lookup). -/
lemma Coherent.locateModule (h : Coherent config s) {registration : ModuleRegistration}
    {now : WallNs} {uid : ModuleUid} {located : ModuleRecord}
    (run : locateModule config registration authority generation sequence now s =
      .ok (s', uid, located)) :
    Coherent config s' ∧ ∃ record, s'.modules[uid]? = some record ∧ located.uid = record.uid ∧
      located.key = record.key := by
  obtain ⟨unnamed, room, rfl, rfl, rfl⟩ | ⟨old, named, found, ⟨_, _, _, rfl, rfl⟩ | ⟨_, replaced⟩⟩ :=
    locateModule_inv run
  · have number := h.modules.number.next_eq
    have next : (s.nextModuleUid + 1).toNat = s.nextModuleUid.toNat + 1 := by
      have := config.maxModules.toNat_lt
      rw [UInt64.toNat_add]
      simp only [UInt64.toNat_one]
      omega
    have fresh := h.modules.number.fresh (i := s.nextModuleUid) rfl
    refine ⟨⟨h.sources, ⟨h.modules.uid.insert rfl, ?_, ?_, ?_⟩, h.ports,
      h.slots.setModule _ _, h.rules⟩, _, Std.ExtTreeMap.getElem?_insert_self, rfl, rfl⟩
    · rw [next]
      exact h.modules.number.add rfl _
    · rw [size_insert_of_not_mem fresh]
      exact room
    · exact h.modules.index.add fresh rfl unnamed
  · exact ⟨h, located, found, rfl, rfl⟩
  · obtain ⟨_, rfl, rfl⟩ := replaceIncarnation_inv replaced
    refine ⟨⟨h.sources, h.modules, h.ports, ?_, h.rules⟩, old, found, rfl, rfl⟩
    split
    · exact h.slots.release old.uid
    · exact h.slots

/-- Registering a module keeps a state coherent (source `Registry::register_module`). -/
lemma Coherent.registerModule [StdSort] (h : Coherent config s)
    {registration : ModuleRegistration} {handle : ModuleHandle}
    (run : registerModuleBody config clock registration authority s generation sequence =
      .ok (s', handle)) : Coherent config s' := by
  obtain ⟨_, t, uid, located, record, claims, locate, settle, _, rfl⟩ :=
    registerModuleBody_inv run
  obtain ⟨sameUid, sameKey, _⟩ := settleDiscovered_same settle
  obtain ⟨coherent, old, found, uidLocated, keyLocated⟩ := h.locateModule locate
  refine coherent.setModule found ?_
  exact ⟨sameUid.trans uidLocated, sameKey.trans keyLocated⟩

/-- Attaching keeps a state coherent (source `Registry::attach`). -/
lemma Coherent.attach (h : Coherent config s) {slot : SlotKey} {portIndex : UInt32}
    {attachment : AttachmentRecord}
    (run : attachBody config clock authority module slot portIndex s generation sequence =
      .ok (s', attachment)) : Coherent config s' := by
  obtain ⟨_, record, found, _, ⟨_, _, rfl⟩ | ⟨_, _, _, rfl, rfl⟩⟩ := attachBody_inv run
  · exact h
  · have own : record.uid = module.uid := h.modules.uid _ record found
    refine ⟨h.sources, h.modules.replace found ?_ ?_, h.ports,
      (h.slots.setModule _ _).setSlot rfl ?_, h.rules⟩
    · split <;> rfl
    · split <;> rfl
    · rw [Std.ExtTreeMap.mem_insert]
      exact .inl (by simp [newAttachment, own])

/-- Detaching keeps a state coherent (source `Registry::detach`). -/
lemma Coherent.detach (h : Coherent config s) {slot : SlotKey} {u : Unit}
    (run : detachBody config clock authority slot s generation sequence = .ok (s', u)) :
    Coherent config s' := by
  obtain ⟨_, attachment, taken, _, rfl⟩ := detachBody_inv run
  have own : attachment.slot.str = slot.str := h.slots.key _ _ taken
  have freed : SlotTable (s.attachments.insert slot.str { attachment with
      live := false, note := text "detached" }) s.modules := by
    refine h.slots.setSlot ?_ ?_
    · exact own
    · exact h.slots.named _ attachment taken
  split
  · rename_i record found
    split
    · exact ⟨h.sources, h.modules.replace found rfl rfl, h.ports, freed.setModule _ _, h.rules⟩
    · exact ⟨h.sources, h.modules, h.ports, freed, h.rules⟩
  · exact ⟨h.sources, h.modules, h.ports, freed, h.rules⟩

/-- Declaring a capability of a port keeps a state coherent (source
`Registry::publish_port_capability`). -/
lemma Coherent.publishPortCapability (h : Coherent config s) {port : PortKey}
    {key : CapabilityKey} {subkey : Bytes} {value : CapabilityValue} {provenance : Provenance}
    {u : Unit}
    (run : publishPortCapabilityBody config clock authority port key subkey value provenance s
      generation sequence = .ok (s', u)) : Coherent config s' := by
  obtain ⟨_, record, _, _, locate, _, _, rfl⟩ := publishPortCapabilityBody_inv run
  have own : record.key.str = port.str := by
    obtain found | ⟨_, _, rfl⟩ := locatePort_inv locate
    · exact h.ports _ _ found
    · rfl
  exact ⟨h.sources, h.modules, h.ports.insert own, h.slots, h.rules⟩

/-- Publishing a rule keeps a state coherent (source `Registry::publish_rule`). -/
lemma Coherent.publishRule (h : Coherent config s) {rule : CompatRule} {handle : CompatRuleHandle}
    (run : publishRuleBody config authority rule s generation sequence = .ok (s', handle)) :
    Coherent config s' := by
  obtain ⟨_, room, rfl⟩ := publishRuleBody_inv run
  have small := config.maxRules.toNat_lt
  have number := h.rules.number.next_eq
  have narrow : s.nextRuleId.toUInt32.toNat = s.nextRuleId.toNat := by
    rw [UInt64.toNat_toUInt32]
    omega
  have next : (s.nextRuleId + 1).toNat = s.nextRuleId.toNat + 1 := by
    rw [UInt64.toNat_add]
    simp only [UInt64.toNat_one]
    omega
  refine ⟨h.sources, h.modules, h.ports, h.slots, h.rules.id.insert rfl, ?_, ?_⟩
  · rw [next]
    exact h.rules.number.add narrow _
  · rw [size_insert_of_not_mem (h.rules.number.fresh narrow)]
    exact room

/-- Retiring a rule keeps a state coherent (source `Registry::retire_rule`). -/
lemma Coherent.retireRule (h : Coherent config s) {id : RuleId} {u : Unit}
    (run : retireRuleBody authority id s generation sequence = .ok (s', u)) :
    Coherent config s' := by
  obtain ⟨_, record, found, _, rfl⟩ := retireRuleBody_inv run
  have own : record.id = id := h.rules.id _ _ found
  refine ⟨h.sources, h.modules, h.ports, h.slots, h.rules.id.insert own,
    h.rules.number.replace (mem_of_getElem? found) _, ?_⟩
  rw [size_insert_of_mem (mem_of_getElem? found)]
  exact h.rules.room

/-- The body of every operation keeps a state coherent. -/
lemma Coherent.body [StdSort] (h : Coherent config s) {operation : Operation}
    (run : operation.body config clock s generation sequence = .ok s') : Coherent config s' := by
  cases operation <;> rw [Operation.body, fst_map_eq_ok] at run <;> obtain ⟨result, run⟩ := run
  case registerSource => exact h.registerSource run
  case registerModule => exact h.registerModule run
  case updateIdentity =>
    obtain ⟨_, record, _, found, _, rfl⟩ := updateIdentityBody_inv run
    refine h.setModule found ?_
    exact ⟨rfl, rfl⟩
  case publishCapability =>
    obtain ⟨_, record, _, found, _, rfl⟩ := publishCapabilityBody_inv run
    refine h.setModule found ?_
    exact ⟨rfl, rfl⟩
  case publishPortCapability => exact h.publishPortCapability run
  case attach => exact h.attach run
  case detach => exact h.detach run
  case ingestHealth =>
    obtain ⟨_, record, _, _, found, _, _, _, _, _, _, rfl⟩ := ingestHealthBody_inv run
    refine h.setModule found ?_
    exact ⟨rfl, rfl⟩
  case publishThreshold =>
    obtain ⟨_, _, rfl⟩ := publishThresholdBody_inv run
    exact ⟨h.sources, h.modules, h.ports, h.slots, h.rules⟩
  case publishRule => exact h.publishRule run
  case retireRule => exact h.retireRule run
  case transition =>
    obtain ⟨_, record, found, _, _, _, rfl⟩ := transitionBody_inv run
    refine h.setModule found ?_
    exact ⟨rfl, rfl⟩
  case reconcileLifecycle =>
    obtain ⟨_, record, _, found, _, _, ⟨_, rfl⟩ | ⟨_, _, _, rfl⟩⟩ := reconcileLifecycleBody_inv run
    · exact h
    · refine h.setModule found ?_
      exact ⟨rfl, rfl⟩

/-- A step keeps a state coherent. -/
lemma Coherent.step [StdSort] {call : Call} (h : Coherent config s)
    (taken : step config s call = some s') : Coherent config s' := by
  obtain ⟨_, next, run, rfl⟩ := step_eq_some taken
  exact (h.nextSequence.body run).publish

/-- Every state a run reaches is coherent. -/
theorem Coherent.run [StdSort] {ok : State → Call → Prop}
    (reached : Run (TransceiverRegistry.step config) ok State.initial s) : Coherent config s :=
  reached.invariant _ .initial fun _ _ _ h _ taken => h.step taken

/-- What every allowed step keeps in coherent states holds after every run. -/
lemma coherent_invariant [StdSort] {ok : State → Call → Prop} {Inv : State → Prop}
    (reached : Run (TransceiverRegistry.step config) ok State.initial s)
    (start : Inv State.initial)
    (keep : ∀ s call s', Coherent config s → Inv s → ok s call →
      TransceiverRegistry.step config s call = some s' → Inv s') : Inv s := by
  have both := reached.invariant (fun s => Coherent config s ∧ Inv s) ⟨.initial, start⟩
    fun s call s' h allowed taken => ⟨h.1.step taken, keep s call s' h.1 h.2 allowed taken⟩
  exact both.2

end TransceiverRegistry
