import TransceiverRegistry.Registry.ModuleStep

/-!
# What an operation does to the tables

Every operation writes one record of one table, or adds one under the next id; the lists of a record
that it writes are as they were or were trimmed to their bounds. The invariants about ids, indexes
and bounds are derived from this case analysis.
-/

namespace TransceiverRegistry

open Lib

section Definitions

variable [StdSort]

/-- A module record is written over another one: its identity stays, and every list of it stays or
is trimmed. -/
structure Rewrites (config : RegistryConfig) (old new : ModuleRecord) : Prop where
  uid : new.uid = old.uid
  key : new.key = old.key
  claims : new.claims = old.claims ∨ ∃ claims, trimClaims claims config.maxClaimsPerModule
    config.maxClaimHistory = .ok new.claims
  declarations : new.declarations = old.declarations ∨ ∃ declarations, trimDeclarations declarations
    config.maxDeclarationsPerModule config.maxClaimHistory = .ok new.declarations
  samples : (new.samples = old.samples ∧ new.seriesCounts = old.seriesCounts) ∨
    ∃ stored dropped trim, trim = trimSamples config ⟨old.samples ++ [stored],
      countSample old.seriesCounts (seriesKey stored.metric stored.lane), dropped⟩ ∧
      new.samples = trim.samples ∧ new.seriesCounts = trim.seriesCounts
  lifecycle : new.lifecycle = old.lifecycle ∨
    ∃ events, new.lifecycle = trimLifecycle config events

/-- What a body does to the tables of the state it is given. -/
inductive TableStep (config : RegistryConfig) (s : State) (generation : Generation)
    (sequence : Sequence) : State → Prop where
  /-- A source is registered again (source `Registry::register_source`). -/
  | renewSource {id : SourceId} {record renewed : SourceRecord}
      (found : s.sources[id]? = some record)
      (same : renewed.id = record.id ∧ renewed.name = record.name)
      (later : record.epoch ≤ renewed.epoch) : TableStep config s generation sequence
      { s with sources := s.sources.insert record.id renewed }
  /-- A source is added (source `Registry::register_source`). -/
  | addSource {record : SourceRecord} (unnamed : s.sourceIdByName[record.name]? = none)
      (room : s.sources.size < config.maxSources.toNat) (ids : s.nextSourceId < 0xFFFFFFFF)
      (own : record.id = s.nextSourceId.toUInt32) : TableStep config s generation sequence
      { s with
        nextSourceId := s.nextSourceId + 1
        sources := s.sources.insert s.nextSourceId.toUInt32 record
        sourceIdByName := s.sourceIdByName.insert record.name s.nextSourceId.toUInt32 }
  /-- A module is added (source `Registry::register_module`, the first branch). -/
  | addModule {blank record : ModuleRecord}
      (unnamed : s.moduleUidByKey[record.key.str]? = none)
      (room : s.modules.size < config.maxModules.toNat) (own : record.uid = s.nextModuleUid)
      (empty : blank.claims = [] ∧ blank.declarations = [] ∧ blank.samples = [] ∧
        blank.seriesCounts = ∅)
      (rewrites : Rewrites config blank record)
      (history : ∃ events, record.lifecycle = trimLifecycle config events) :
      TableStep config s generation sequence
      { s with
        nextModuleUid := s.nextModuleUid + 1
        modules := s.modules.insert s.nextModuleUid record
        moduleUidByKey := s.moduleUidByKey.insert record.key.str s.nextModuleUid }
  /-- A module is written. -/
  | setModule {uid : ModuleUid} {record record' : ModuleRecord} {attachments dropped}
      (found : s.modules[uid]? = some record)
      (rewrites : Rewrites config record record') : TableStep config s generation sequence
      { s with
        modules := s.modules.insert uid record'
        attachments := attachments
        droppedSamples := dropped }
  /-- At most the slots are written. -/
  | slots {attachments} : TableStep config s generation sequence
      { s with attachments := attachments }
  /-- A declaration is added to a port (source `Registry::publish_port_capability`). -/
  | port {clock authority port key subkey value provenance earlier declarations}
      {record : PortRecord}
      (live : sourceIsLive s authority.source authority.epoch = true)
      (located : s.ports[port.str]? = some record ∨ (s.ports[port.str]? = none ∧
        s.ports.size < config.maxPorts.toNat ∧ record.key = port ∧ record.declarations = []))
      (kept : earlier.Sublist record.declarations)
      (trim : trimPortDeclarations (earlier ++ [portDeclaration clock authority generation sequence
        port key subkey value provenance]) config.maxDeclarationsPerPort = .ok declarations) :
      TableStep config s generation sequence
      { s with ports := s.ports.insert port.str { record with declarations } }
  /-- A threshold is published (source `Registry::publish_threshold`). -/
  | threshold {authority threshold}
      (room : (retireThresholds threshold s.thresholds).countP (·.live) <
        config.maxThresholds.toNat) : TableStep config s generation sequence
      { s with
        thresholds := trimThresholds config threshold (retireThresholds threshold s.thresholds ++
          [newThreshold authority generation sequence threshold]) }
  /-- A rule is added (source `Registry::publish_rule`). -/
  | addRule {record : CompatRuleRecord} (room : s.rules.size < config.maxRules.toNat)
      (own : record.id = s.nextRuleId.toUInt32) : TableStep config s generation sequence
      { s with
        nextRuleId := s.nextRuleId + 1
        rules := s.rules.insert s.nextRuleId.toUInt32 record }
  /-- A rule is written (source `Registry::retire_rule`). -/
  | setRule {id : RuleId} {record record' : CompatRuleRecord} (found : s.rules[id]? = some record)
      (same : record'.id = record.id) :
      TableStep config s generation sequence { s with rules := s.rules.insert id record' }

end Definitions

variable [StdSort] {config : RegistryConfig} {clock : Clock} {s s' : State}
  {generation : Generation} {sequence : Sequence} {authority : AuthorityToken}
  {record record' : ModuleRecord}

/-- A record with the same lists rewrites a record. -/
lemma Rewrites.same (uid : record'.uid = record.uid) (key : record'.key = record.key)
    (claims : record'.claims = record.claims) (declarations : record'.declarations =
      record.declarations) (samples : record'.samples = record.samples)
    (counts : record'.seriesCounts = record.seriesCounts)
    (lifecycle : record'.lifecycle = record.lifecycle ∨
      ∃ events, record'.lifecycle = trimLifecycle config events) :
    Rewrites config record record' :=
  ⟨uid, key, .inl claims, .inl declarations, .inl ⟨samples, counts⟩, lifecycle⟩

/-- A move within the lifecycle rewrites a record (source the blocks that fill a
`LifecycleEvent`). -/
lemma Rewrites.move (event : LifecycleEvent) : Rewrites config record (record.move config event) :=
  .same rfl rfl rfl rfl rfl rfl (.inr ⟨_, rfl⟩)

/-- A registration writes a record over the one it located (source `Registry::register_module`). -/
lemma Rewrites.register {claims added : List IdentityClaim} {settled located : ModuleRecord}
    {now : WallNs}
    (settle : settleDiscovered authority generation sequence now located = .ok settled)
    (trim : trimClaims added config.maxClaimsPerModule config.maxClaimHistory = .ok claims) :
    Rewrites config located { settled with
      claims, lifecycle := trimLifecycle config settled.lifecycle } := by
  obtain ⟨_, rfl⟩ | ⟨_, rfl⟩ := settleDiscovered_inv settle
  · exact ⟨rfl, rfl, .inr ⟨_, trim⟩, .inl rfl, .inl ⟨rfl, rfl⟩, .inr ⟨_, rfl⟩⟩
  · exact ⟨rfl, rfl, .inr ⟨_, trim⟩, .inl rfl, .inl ⟨rfl, rfl⟩, .inr ⟨_, rfl⟩⟩

omit [StdSort] in
/-- The epoch of a source that is registered again does not go back
(source `Registry::register_source`). -/
lemma registerSourceBody_epoch {descriptor : SourceDescriptor} {handle : SourceHandle}
    {id : SourceId} {record : SourceRecord}
    (h : registerSourceBody config clock descriptor s generation sequence = .ok (s', handle))
    (named : s.sourceIdByName[descriptor.name]? = some id)
    (found : s.sources[id]? = some record) :
    record.epoch ≤ if descriptor.instanceId ≠ [] ∧
      descriptor.instanceId = record.descriptor.instanceId then record.epoch
      else record.epoch + 1 := by
  simp only [registerSourceBody, named, found, orRefuse, bind_eq_ok, Except.ok.injEq,
    exists_eq_left', refuseIf_eq_ok] at h
  obtain ⟨_, room, _⟩ := h
  split
  · exact UInt32.le_refl _
  · rename_i replaced
    have last : record.epoch.toNat ≠ 2 ^ 32 - 1 := fun full =>
      room ⟨replaced, UInt32.toNat_inj.1 full⟩
    have := record.epoch.toNat_lt
    rw [UInt32.le_iff_toNat_le, UInt32.toNat_add, UInt32.toNat_one]
    omega

/-- What the registration of a source does to the tables (source `Registry::register_source`). -/
lemma tableStep_registerSource {descriptor : SourceDescriptor} {handle : SourceHandle}
    (run : registerSourceBody config clock descriptor s generation sequence = .ok (s', handle)) :
    TableStep config s generation sequence s' := by
  obtain ⟨id, record, epoch, named, found, rfl, state⟩ | ⟨unnamed, room, ids, state⟩ :=
    registerSourceBody_inv run
  · have later := registerSourceBody_epoch run named found
    rw [state]
    exact .renewSource found ⟨rfl, rfl⟩ later
  · rw [state]
    refine .addSource ?_ room ids ?_
    · exact unnamed
    · rfl

/-- What the registration of a module does to the tables (source `Registry::register_module`). -/
lemma tableStep_registerModule {registration : ModuleRegistration} {handle : ModuleHandle}
    (run : registerModuleBody config clock registration authority s generation sequence =
      .ok (s', handle)) : TableStep config s generation sequence s' := by
  obtain ⟨_, t, uid, located, settled, claims, locate, settle, trim, rfl⟩ :=
    registerModuleBody_inv run
  have rewrites : Rewrites config located { settled with
      claims, lifecycle := trimLifecycle config settled.lifecycle } := .register settle trim
  obtain ⟨unnamed, room, rfl, rfl, rfl⟩ | ⟨record, _, found, ⟨_, _, _, rfl, rfl⟩ | ⟨_, replaced⟩⟩ :=
    locateModule_inv locate
  · have key := rewrites.key
    have own := rewrites.uid
    dsimp only [discoveredModule] at key own
    simp only [insert_insert]
    rw [← key] at unnamed ⊢
    exact .addModule unnamed room own ⟨rfl, rfl, rfl, rfl⟩ rewrites ⟨_, rfl⟩
  · exact .setModule found rewrites
  · obtain ⟨_, rfl, rfl⟩ := replaceIncarnation_inv replaced
    refine .setModule found ⟨rewrites.uid, rewrites.key, rewrites.claims, rewrites.declarations,
      rewrites.samples, .inr ⟨_, rfl⟩⟩

/-- What the body of an operation does to the tables. -/
lemma tableStep_of_body {operation : Operation}
    (run : operation.body config clock s generation sequence = .ok s') :
    TableStep config s generation sequence s' := by
  cases operation <;> rw [Operation.body, fst_map_eq_ok] at run <;> obtain ⟨result, run⟩ := run
  case registerSource => exact tableStep_registerSource run
  case registerModule => exact tableStep_registerModule run
  case updateIdentity =>
    obtain ⟨_, record, claims, found, trim, rfl⟩ := updateIdentityBody_inv run
    exact .setModule found ⟨rfl, rfl, .inr ⟨_, trim⟩, .inl rfl, .inl ⟨rfl, rfl⟩, .inl rfl⟩
  case publishCapability =>
    obtain ⟨_, record, declarations, found, trim, rfl⟩ := publishCapabilityBody_inv run
    exact .setModule found ⟨rfl, rfl, .inl rfl, .inr ⟨_, trim⟩, .inl ⟨rfl, rfl⟩, .inl rfl⟩
  case publishPortCapability =>
    obtain ⟨auth, record, earlier, declarations, locate, kept, trim, rfl⟩ :=
      publishPortCapabilityBody_inv run
    refine .port (requireAuthority_eq_ok.1 auth).2 ?_ kept trim
    obtain found | ⟨absent, room, rfl⟩ := locatePort_inv locate
    · exact .inl found
    · exact .inr ⟨absent, room, rfl, rfl⟩
  case attach =>
    obtain ⟨_, record, found, _, ⟨_, _, rfl⟩ | ⟨_, _, _, rfl, rfl⟩⟩ := attachBody_inv run
    · exact .slots
    · refine .setModule found ?_
      split
      · exact .move _
      · exact .same rfl rfl rfl rfl rfl rfl (.inl rfl)
  case detach =>
    obtain ⟨_, attachment, _, _, rfl⟩ := detachBody_inv run
    split
    · rename_i record found
      split
      · exact .setModule found (.move _)
      · exact .slots
    · exact .slots
  case ingestHealth =>
    obtain ⟨_, record, stored, latches, found, _, stores, _, _, trim, trims, rfl⟩ :=
      ingestHealthBody_inv run
    refine .setModule found ⟨rfl, rfl, .inl rfl, .inl rfl, .inr ⟨stored, s.droppedSamples, trim,
      ?_, rfl, rfl⟩, .inl rfl⟩
    rw [trims, stores]
    rfl
  case publishThreshold =>
    obtain ⟨_, room, rfl⟩ := publishThresholdBody_inv run
    exact .threshold room
  case publishRule =>
    obtain ⟨_, room, rfl⟩ := publishRuleBody_inv run
    refine .addRule room ?_
    rfl
  case retireRule =>
    obtain ⟨_, record, found, _, rfl⟩ := retireRuleBody_inv run
    exact .setRule found rfl
  case transition =>
    obtain ⟨_, record, found, _, _, _, rfl⟩ := transitionBody_inv run
    exact .setModule found (.move _)
  case reconcileLifecycle =>
    obtain ⟨_, record, _, found, _, _, ⟨_, rfl⟩ | ⟨_, _, _, rfl⟩⟩ := reconcileLifecycleBody_inv run
    · exact .slots
    · exact .setModule found (.move _)

/-- What a step does to the tables: the body runs under the next generation, with the sequence
number reserved (source `RegistryImpl::mutate`). -/
lemma step_tableStep {call : Call} (taken : step config s call = some s') :
    ∃ next, TableStep config (nextSequence s).2 (s.generation + 1) s.nextSequence next ∧
      s' = next.publish (s.generation + 1) := by
  obtain ⟨_, next, run, rfl⟩ := step_eq_some taken
  exact ⟨next, tableStep_of_body run, rfl⟩

end TransceiverRegistry
