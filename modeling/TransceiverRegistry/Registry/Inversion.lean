import TransceiverRegistry.Lib.Keyed
import TransceiverRegistry.Registry.Operation

/-!
# Inversion of the mutation bodies

What the body of each mutation did when it succeeded: the checks it passed, the records it found
and the state it left. Every invariant of the registry is derived from these lemmas; no other proof
unfolds a body.
-/

namespace TransceiverRegistry

open Lib

variable {config : RegistryConfig} {clock : Clock} {s s' : State} {generation : Generation}
  {sequence : Sequence} {authority : AuthorityToken} {module : ModuleHandle}

/-- A registration renews or replaces the source of its name, or adds a source
(source `Registry::register_source`). -/
lemma registerSourceBody_inv {descriptor : SourceDescriptor} {handle : SourceHandle}
    (h : registerSourceBody config clock descriptor s generation sequence = .ok (s', handle)) :
    (∃ id record epoch, s.sourceIdByName[descriptor.name]? = some id ∧
      s.sources[id]? = some record ∧
      epoch = (if descriptor.instanceId ≠ [] ∧
        descriptor.instanceId = record.descriptor.instanceId then record.epoch
        else record.epoch + 1) ∧
      s' = { s with sources := s.sources.insert record.id { record with
        epoch, descriptor, generation, sequence, registeredWallNs := clock.wallNowNs 0 } }) ∨
    (s.sourceIdByName[descriptor.name]? = none ∧ s.sources.size < config.maxSources.toNat ∧
      s.nextSourceId < 0xFFFFFFFF ∧
      s' = { s with
        nextSourceId := s.nextSourceId + 1
        sources := s.sources.insert s.nextSourceId.toUInt32 {
          id := s.nextSourceId.toUInt32, name := descriptor.name, epoch := 1, descriptor
          generation, sequence, registeredWallNs := clock.wallNowNs 0 }
        sourceIdByName :=
          s.sourceIdByName.insert descriptor.name s.nextSourceId.toUInt32 }) := by
  unfold registerSourceBody at h
  simp only at h
  split at h
  · rename_i id found
    simp only [bind_eq_ok, orRefuse_eq_ok, refuseIf_eq_ok] at h
    obtain ⟨record, known, _, _, e⟩ := h
    cases e
    exact .inl ⟨id, record, _, found, known, rfl, rfl⟩
  · rename_i absent
    simp only [bind_eq_ok, refuseIf_eq_ok, Nat.not_le, UInt64.not_le] at h
    obtain ⟨_, room, _, ids, e⟩ := h
    cases e
    exact .inr ⟨absent, room, ids, rfl⟩

/-- A replacement starts the next incarnation, and releases the slots of the module unless it was
replaced or retired (source `Registry::register_module`, the replacement branch). -/
lemma replaceIncarnation_inv {now : WallNs} {record record' : ModuleRecord}
    (h : replaceIncarnation authority generation sequence now record s = .ok (s', record')) :
    record.incarnation ≠ 0xFFFFFFFF ∧
    s' = { s with attachments :=
      if record.state ≠ .replaced ∧ record.state ≠ .retired then
        s.attachments.map fun _ a => releaseAttachment record.uid a
      else s.attachments } ∧
    record' = { record with
      incarnation := record.incarnation + 1
      incarnationCount := record.incarnationCount + 1
      state := .discovered
      fencedGeneration := generation
      latches := []
      lifecycle :=
        (if record.state ≠ .replaced ∧ record.state ≠ .retired then
          record.lifecycle ++ [lifecycleEvent authority generation sequence now record.incarnation
            record.state .replaced
            (text "a new physical module incarnation was registered for this module key")]
        else record.lifecycle) ++
        [lifecycleEvent authority generation sequence now (record.incarnation + 1) .discovered
          .discovered (text "new module incarnation discovered")] } := by
  simp only [replaceIncarnation, bind_eq_ok, refuseIf_eq_ok] at h
  obtain ⟨_, room, e⟩ := h
  cases e
  exact ⟨room, rfl, rfl⟩

/-- The module of a key is new, current or replaced (source `Registry::register_module`, the
lookup). -/
lemma locateModule_inv {registration : ModuleRegistration} {now : WallNs} {uid : ModuleUid}
    {record' : ModuleRecord}
    (h : locateModule config registration authority generation sequence now s =
      .ok (s', uid, record')) :
    (s.moduleUidByKey[registration.key.str]? = none ∧
      s.modules.size < config.maxModules.toNat ∧ uid = s.nextModuleUid ∧
      record' = discoveredModule authority generation sequence now registration.key uid ∧
      s' = { s with
        nextModuleUid := s.nextModuleUid + 1
        modules := s.modules.insert uid record'
        moduleUidByKey := s.moduleUidByKey.insert registration.key.str uid }) ∨
    (∃ record, s.moduleUidByKey[registration.key.str]? = some uid ∧
      s.modules[uid]? = some record ∧
      ((registration.intent = .ensureCurrent ∧ record.state ≠ .replaced ∧
          record.state ≠ .retired ∧ s' = s ∧ record' = record) ∨
        (registration.intent = .newIncarnation ∧
          replaceIncarnation authority generation sequence now record s = .ok (s', record')))) := by
  unfold locateModule at h
  split at h
  · rename_i absent
    simp only [bind_eq_ok, refuseIf_eq_ok, Nat.not_le] at h
    obtain ⟨_, room, e⟩ := h
    cases e
    exact .inl ⟨absent, room, rfl, rfl, rfl⟩
  · rename_i found
    simp only [bind_eq_ok, orRefuse_eq_ok] at h
    obtain ⟨record, known, h⟩ := h
    split at h
    · rename_i intent
      simp only [bind_eq_ok, refuseIf_eq_ok, not_or] at h
      obtain ⟨_, ⟨h1, h2⟩, e⟩ := h
      cases e
      exact .inr ⟨_, found, known, .inl ⟨intent, h1, h2, rfl, rfl⟩⟩
    · rename_i intent
      simp only [bind_eq_ok] at h
      obtain ⟨⟨t, r⟩, replaced, e⟩ := h
      cases e
      exact .inr ⟨record, found, known, .inr ⟨intent, replaced⟩⟩

/-- Settling registers a discovered module and keeps every other one
(source `Registry::register_module`, the second lookup). -/
lemma settleDiscovered_inv {now : WallNs} {record record' : ModuleRecord}
    (h : settleDiscovered authority generation sequence now record = .ok record') :
    (record.state = .discovered ∧ record' = { record with
      state := .registered
      stateGeneration := generation
      stateSequence := sequence
      stateWallNs := now
      lifecycle := record.lifecycle ++ [lifecycleEvent authority generation sequence now
        record.incarnation record.state .registered (text "module identity registered")] }) ∨
    (record.state ≠ .discovered ∧ record' = record) := by
  unfold settleDiscovered at h
  split at h
  · rename_i discovered
    simp only [bind_eq_ok, refuseIf_eq_ok] at h
    obtain ⟨_, _, e⟩ := h
    cases e
    exact .inl ⟨discovered, rfl⟩
  · rename_i settled
    cases h
    exact .inr ⟨settled, rfl⟩

/-- A registration locates the module, settles it and adds the claims
(source `Registry::register_module`). -/
lemma registerModuleBody_inv [StdSort] {registration : ModuleRegistration}
    {handle : ModuleHandle}
    (h : registerModuleBody config clock registration authority s generation sequence =
      .ok (s', handle)) :
    requireAuthority s authority = .ok () ∧
    ∃ t uid located record claims,
      locateModule config registration authority generation sequence (clock.wallNowNs 0) s =
        .ok (t, uid, located) ∧
      settleDiscovered authority generation sequence (clock.wallNowNs 0) located = .ok record ∧
      trimClaims (record.claims ++ registration.identity.map
        (identityClaim authority generation sequence (clock.wallNowNs 0) (clock.domain 0) record
          registration.provenance)) config.maxClaimsPerModule config.maxClaimHistory =
        .ok claims ∧
      s' = { t with modules := t.modules.insert uid { record with
        claims, lifecycle := trimLifecycle config record.lifecycle } } := by
  simp only [registerModuleBody, bind_eq_ok] at h
  obtain ⟨_, auth, ⟨t, uid, located⟩, locate, record, settle, claims, trim, e⟩ := h
  cases e
  exact ⟨auth, t, uid, located, record, claims, locate, settle, trim, rfl⟩

/-- An identity update appends a claim (source `Registry::update_identity`). -/
lemma updateIdentityBody_inv [StdSort] {value : IdentityFieldValue} {provenance : Provenance}
    {u : Unit}
    (h : updateIdentityBody config clock authority module value provenance s generation sequence =
      .ok (s', u)) :
    requireAuthority s authority = .ok () ∧
    ∃ record claims, s.modules[module.uid]? = some record ∧
      trimClaims (record.claims ++ [identityClaim authority generation sequence
        (clock.wallNowNs 0) (clock.domain 0) record provenance value])
        config.maxClaimsPerModule config.maxClaimHistory = .ok claims ∧
      s' = { s with modules := s.modules.insert module.uid { record with claims } } := by
  simp only [updateIdentityBody, bind_eq_ok, currentModule_eq_ok] at h
  obtain ⟨record, ⟨auth, found, _⟩, claims, trim, e⟩ := h
  cases e
  exact ⟨auth, record, claims, found, trim, rfl⟩

/-- A publication appends a declaration to a module (source `Registry::publish_capability`). -/
lemma publishCapabilityBody_inv [StdSort] {key : CapabilityKey} {subkey : Bytes}
    {value : CapabilityValue} {provenance : Provenance} {u : Unit}
    (h : publishCapabilityBody config clock authority module key subkey value provenance s
      generation sequence = .ok (s', u)) :
    requireAuthority s authority = .ok () ∧
    ∃ record declarations, s.modules[module.uid]? = some record ∧
      trimDeclarations (record.declarations ++ [moduleDeclaration clock authority generation
        sequence record key subkey value provenance])
        config.maxDeclarationsPerModule config.maxClaimHistory = .ok declarations ∧
      s' = { s with modules := s.modules.insert module.uid { record with declarations } } := by
  simp only [publishCapabilityBody, bind_eq_ok, currentModule_eq_ok] at h
  obtain ⟨record, ⟨auth, found, _⟩, declarations, trim, e⟩ := h
  cases e
  exact ⟨auth, record, declarations, found, trim, rfl⟩

/-- A port is known or is added (source `Registry::publish_port_capability`). -/
lemma locatePort_inv {port : PortKey} {record : PortRecord}
    (h : locatePort config clock port s generation sequence = .ok record) :
    s.ports[port.str]? = some record ∨
    (s.ports[port.str]? = none ∧ s.ports.size < config.maxPorts.toNat ∧
      record = ⟨port, generation, sequence, clock.wallNowNs 0, []⟩) := by
  unfold locatePort at h
  split at h
  · rename_i found
    cases h
    exact .inl found
  · rename_i absent
    simp only [bind_eq_ok, refuseIf_eq_ok, Nat.not_le] at h
    obtain ⟨_, room, e⟩ := h
    cases e
    exact .inr ⟨absent, room, rfl⟩

/-- A publication appends a declaration to a port (source `Registry::publish_port_capability`). -/
lemma publishPortCapabilityBody_inv {port : PortKey} {key : CapabilityKey} {subkey : Bytes}
    {value : CapabilityValue} {provenance : Provenance} {u : Unit}
    (h : publishPortCapabilityBody config clock authority port key subkey value provenance s
      generation sequence = .ok (s', u)) :
    requireAuthority s authority = .ok () ∧
    ∃ record earlier declarations, locatePort config clock port s generation sequence =
        .ok record ∧ earlier.Sublist record.declarations ∧
      trimPortDeclarations (earlier ++ [portDeclaration clock authority generation sequence port
        key subkey value provenance]) config.maxDeclarationsPerPort = .ok declarations ∧
      s' = { s with ports := s.ports.insert port.str { record with declarations } } := by
  simp only [publishPortCapabilityBody, bind_eq_ok] at h
  obtain ⟨_, auth, record, locate, earlier, shorten, declarations, trim, e⟩ := h
  cases e
  refine ⟨auth, record, earlier, declarations, locate, ?_, trim, rfl⟩
  unfold portRoom at shorten
  split at shorten
  · exact eraseSuperseded_sublist shorten
  · cases shorten
    exact List.Sublist.refl _

/-- Taking a slot over changes at most the record of that slot (source `Registry::attach`). -/
lemma takeOver_inv {slot : SlotKey} {attachments : Std.ExtTreeMap Bytes AttachmentRecord compare}
    (h : takeOver config slot s = .ok attachments) (attachment : AttachmentRecord) :
    attachments.insert slot.str attachment = s.attachments.insert slot.str attachment := by
  unfold takeOver at h
  split at h
  · split at h
    · cases h
      exact insert_insert
    · cases h
      rfl
  · simp only [bind_eq_ok, refuseIf_eq_ok] at h
    obtain ⟨_, _, e⟩ := h
    cases e
    rfl

/-- An attach finds the module in the slot already, or puts it there and moves it to the attached
state (source `Registry::attach`). -/
lemma attachBody_inv {slot : SlotKey} {portIndex : UInt32} {attachment : AttachmentRecord}
    (h : attachBody config clock authority module slot portIndex s generation sequence =
      .ok (s', attachment)) :
    requireAuthority s authority = .ok () ∧
    ∃ record, s.modules[module.uid]? = some record ∧ record.incarnation = module.incarnation ∧
      ((s.attachments[slot.str]? = some attachment ∧
          attachment.holds record.uid record.incarnation = true ∧ s' = s) ∨
        ((∀ a, s.attachments[slot.str]? = some a →
            a.holds record.uid record.incarnation = false) ∧
          (s.attachments[slot.str]? = none → liveAttachments s < config.maxAttachments.toNat) ∧
          (record.state = .attached ∨
            lifecycleTransitionAllowed record.state .attached = true) ∧
          attachment =
            newAttachment clock authority generation sequence slot portIndex record ∧
          s' = { s with
            modules := s.modules.insert module.uid
              (if record.state ≠ .attached then
                record.move config (lifecycleEvent authority generation sequence
                  (clock.wallNowNs 0) record.incarnation record.state .attached
                  (text "module attached to slot " ++ slot.str))
              else record)
            attachments := s.attachments.insert slot.str attachment })) := by
  simp only [attachBody, bind_eq_ok, currentModule_eq_ok] at h
  obtain ⟨record, ⟨auth, found, current⟩, h⟩ := h
  refine ⟨auth, record, found, current, ?_⟩
  split at h
  · rename_i existing same
    rw [Option.filter_eq_some_iff] at same
    cases h
    exact .inl ⟨same.1, same.2, rfl⟩
  · rename_i other
    simp only [bind_eq_ok, refuseIf_eq_ok] at h
    obtain ⟨_, allowed, attachments, taken, e⟩ := h
    have budget : s.attachments[slot.str]? = none →
        liveAttachments s < config.maxAttachments.toNat := by
      intro absent
      unfold takeOver at taken
      rw [absent] at taken
      simp only [bind_eq_ok, refuseIf_eq_ok, Nat.not_le] at taken
      obtain ⟨_, room, _⟩ := taken
      exact room
    cases e
    refine .inr ⟨fun a ha => ?_, budget, ?_, rfl, ?_⟩
    · rw [ha, Option.filter_some] at other
      cases holds : a.holds record.uid record.incarnation with
      | true => simp [holds] at other
      | false => rfl
    · by_cases attached : record.state = .attached
      · exact .inl attached
      · refine .inr ?_
        by_contra no
        exact allowed ⟨attached, by simpa using no⟩
    · rw [← takeOver_inv taken]

/-- A detach frees the slot and removes the module it held when that module is in a slot
(source `Registry::detach`). -/
lemma detachBody_inv {slot : SlotKey} {u : Unit}
    (h : detachBody config clock authority slot s generation sequence = .ok (s', u)) :
    requireAuthority s authority = .ok () ∧
    ∃ attachment, s.attachments[slot.str]? = some attachment ∧ attachment.live = true ∧
      s' = { s with
        attachments := s.attachments.insert slot.str { attachment with
          live := false, note := text "detached" }
        modules := match s.modules[attachment.uid]? with
          | some record =>
            if record.incarnation = attachment.incarnation ∧
                lifecycleStateImpliesAttachment record.state = true then
              s.modules.insert attachment.uid (record.move config
                (lifecycleEvent authority generation sequence (clock.wallNowNs 0)
                  record.incarnation record.state .removed
                  (text "module detached from slot " ++ slot.str)))
            else s.modules
          | none => s.modules } := by
  simp only [detachBody, bind_eq_ok, orRefuse_eq_ok, Option.filter_eq_some_iff] at h
  obtain ⟨_, auth, attachment, ⟨found, live⟩, h⟩ := h
  refine ⟨auth, attachment, found, live, ?_⟩
  split at h
  · rename_i absent
    cases h
    rw [absent]
  · rename_i record known
    rw [known]
    split at h
    · rename_i other
      cases h
      simp [other]
    · rename_i same
      rw [not_not] at same
      split at h
      · rename_i inSlot
        simp only [bind_eq_ok, refuseIf_eq_ok] at h
        obtain ⟨_, _, e⟩ := h
        cases e
        simp [same, inSlot]
      · rename_i outside
        cases h
        simp [outside]

/-- A transition makes a legal move (source `Registry::transition`). -/
lemma transitionBody_inv {target : LifecycleState} {reason : Bytes} {event : LifecycleEvent}
    (h : transitionBody config clock authority module target reason s generation sequence =
      .ok (s', event)) :
    requireAuthority s authority = .ok () ∧
    ∃ record, s.modules[module.uid]? = some record ∧ record.incarnation = module.incarnation ∧
      lifecycleTransitionAllowed record.state target = true ∧
      event = lifecycleEvent authority generation sequence (clock.wallNowNs 0) record.incarnation
        record.state target reason ∧
      s' = { s with modules := s.modules.insert module.uid (record.move config event) } := by
  simp only [transitionBody, bind_eq_ok, currentModule_eq_ok, refuseIf_eq_ok,
    Bool.not_eq_false] at h
  obtain ⟨record, ⟨auth, found, current⟩, _, allowed, e⟩ := h
  cases e
  exact ⟨auth, record, found, current, allowed, rfl, rfl⟩

/-- The health evidence moves a module only within the states of a module in a slot
(source `Registry::reconcile_lifecycle`, `target`). -/
lemma reconcileTarget_cases (state : LifecycleState) (report : HealthReport) :
    reconcileTarget state report = state ∨
    (lifecycleStateImpliesAttachment state = true ∧
      (reconcileTarget state report = .degraded ∨ reconcileTarget state report = .active)) := by
  unfold reconcileTarget
  simp only [lifecycleStateImpliesAttachment, Bool.decide_or, Bool.or_eq_true, decide_eq_true_eq]
  split
  · rename_i h
    refine .inr ⟨?_, .inl rfl⟩
    rcases h.2 with h | h <;> simp [h]
  · split
    · rename_i h
      refine .inr ⟨?_, .inr rfl⟩
      rcases h.2 with h | h <;> simp [h]
    · exact .inl rfl

/-- A reconciliation leaves the state or moves the module as its report asks
(source `Registry::reconcile_lifecycle`). -/
lemma reconcileLifecycleBody_inv [StdSort] {event : LifecycleEvent}
    (h : reconcileLifecycleBody config clock authority module s generation sequence =
      .ok (s', event)) :
    requireAuthority s authority = .ok () ∧
    ∃ record target, s.modules[module.uid]? = some record ∧
      record.incarnation = module.incarnation ∧
      target = reconcileTarget record.state
        (buildHealthReport config (clock.wallNowNs 1) (clock.domain 0) s record) ∧
      ((target = record.state ∧ s' = s) ∨
        (target ≠ record.state ∧ lifecycleTransitionAllowed record.state target = true ∧
          event = lifecycleEvent authority generation sequence (clock.wallNowNs 0)
            record.incarnation record.state target
            (if target = .degraded then text "health evidence indicates degradation"
              else text "health evidence is fresh and nominal") ∧
          s' = { s with modules := s.modules.insert module.uid (record.move config event) })) := by
  simp only [reconcileLifecycleBody, bind_eq_ok, currentModule_eq_ok] at h
  obtain ⟨record, ⟨auth, found, current⟩, h⟩ := h
  refine ⟨auth, record, _, found, current, rfl, ?_⟩
  split at h
  · rename_i same
    cases h
    exact .inl ⟨same, rfl⟩
  · rename_i moved
    simp only [bind_eq_ok, refuseIf_eq_ok, Bool.not_eq_false] at h
    obtain ⟨_, allowed, e⟩ := h
    cases e
    exact .inr ⟨moved, allowed, rfl, rfl⟩

/-- The latches after an ingestion: a present measurement moves the latch of its series under the
effective threshold (source `Registry::ingest_health`, the latch block). -/
def ingestedLatches (s : State) (record : ModuleRecord) (sample : HealthSampleInput)
    (observedAtWallNs : WallNs) (sequence : Sequence) (generation : Generation) :
    List HealthLatchRecord :=
  if sample.presence = .present then
    match selectThreshold (liveThresholds s) sample.metric sample.lane with
    | some threshold => updateLatch sample.metric sample.lane (fun latch =>
        advanceLatch threshold latch sample.value observedAtWallNs sequence generation)
        record.latches
    | none => record.latches
  else record.latches

/-- An ingestion stores the measurement and trims the samples (source
`Registry::ingest_health`). -/
lemma ingestHealthBody_inv {sample : HealthSampleInput} {now : WallNs} {u : Unit}
    (h : ingestHealthBody config clock authority module sample now s generation sequence =
      .ok (s', u)) :
    requireAuthority s authority = .ok () ∧
    ∃ record stored latches, s.modules[module.uid]? = some record ∧
      record.incarnation = module.incarnation ∧
      stored = storedSample clock authority generation sequence record sample now ∧
      (stored.observedAtMonotonicNs ≠ 0 → record.samples.any
        (replays authority sample stored.clockDomain stored.observedAtMonotonicNs) = false) ∧
      latches = ingestedLatches s record sample stored.observedAtWallNs sequence generation ∧
      ∃ trim, trim = trimSamples config ⟨record.samples ++ [stored],
          countSample record.seriesCounts (seriesKey sample.metric sample.lane),
          s.droppedSamples⟩ ∧
        s' = { s with
          droppedSamples := trim.droppedSamples
          modules := s.modules.insert module.uid { record with
            samples := trim.samples, seriesCounts := trim.seriesCounts, latches } } := by
  simp only [ingestHealthBody, bind_eq_ok, currentModule_eq_ok, refuseIf_eq_ok] at h
  obtain ⟨record, ⟨auth, found, current⟩, _, fresh, e⟩ := h
  cases e
  refine ⟨auth, record, _, _, found, current, rfl, fun nonzero => ?_, rfl, _, rfl, rfl⟩
  by_contra replayed
  exact fresh ⟨nonzero, by simpa using replayed⟩

/-- A publication retires the thresholds of the series and adds the new one
(source `Registry::publish_threshold`). -/
lemma publishThresholdBody_inv {threshold : HealthThreshold} {u : Unit}
    (h : publishThresholdBody config authority threshold s generation sequence = .ok (s', u)) :
    requireAuthority s authority = .ok () ∧
    (retireThresholds threshold s.thresholds).countP (·.live) < config.maxThresholds.toNat ∧
    s' = { s with
      thresholds := trimThresholds config threshold
        (retireThresholds threshold s.thresholds ++
          [newThreshold authority generation sequence threshold]) } := by
  simp only [publishThresholdBody, bind_eq_ok, refuseIf_eq_ok, Nat.not_le] at h
  obtain ⟨_, auth, _, room, e⟩ := h
  cases e
  exact ⟨auth, room, rfl⟩

/-- A publication adds a rule under the next id (source `Registry::publish_rule`). -/
lemma publishRuleBody_inv {rule : CompatRule} {handle : CompatRuleHandle}
    (h : publishRuleBody config authority rule s generation sequence = .ok (s', handle)) :
    requireAuthority s authority = .ok () ∧ s.rules.size < config.maxRules.toNat ∧
    s' = { s with
      nextRuleId := s.nextRuleId + 1
      rules := s.rules.insert s.nextRuleId.toUInt32 {
        id := s.nextRuleId.toUInt32, rule, source := authority.source
        sourceEpoch := authority.epoch, generation, sequence, live := true } } := by
  simp only [publishRuleBody, bind_eq_ok, refuseIf_eq_ok, Nat.not_le] at h
  obtain ⟨_, auth, _, room, e⟩ := h
  cases e
  exact ⟨auth, room, rfl⟩

/-- A retirement marks a live rule (source `Registry::retire_rule`). -/
lemma retireRuleBody_inv {id : RuleId} {u : Unit}
    (h : retireRuleBody authority id s generation sequence = .ok (s', u)) :
    requireAuthority s authority = .ok () ∧
    ∃ record, s.rules[id]? = some record ∧ record.live = true ∧
      s' = { s with rules := s.rules.insert id { record with
        live := false, generation, sequence } } := by
  simp only [retireRuleBody, bind_eq_ok, orRefuse_eq_ok, refuseIf_eq_ok, Bool.not_eq_false] at h
  obtain ⟨_, auth, record, found, _, live, e⟩ := h
  cases e
  exact ⟨auth, record, found, live, rfl⟩

end TransceiverRegistry
