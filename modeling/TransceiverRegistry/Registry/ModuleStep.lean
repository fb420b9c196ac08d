import TransceiverRegistry.Registry.Coherent

/-!
# What a step does to the modules

Every step leaves the table of the modules, moves one module within its lifecycle, or adds evidence
to one module in one of four ways. The invariants about claims, declarations, samples and latches
are derived from this case analysis; no other proof about them goes through the operations.
-/

namespace TransceiverRegistry

open Lib

/-- The operation adds evidence to a module. -/
def Operation.addsEvidence : Operation → Bool
  | .registerModule _ _ | .updateIdentity _ _ _ _ _ | .publishCapability _ _ _ _ _ _ _
  | .ingestHealth _ _ _ _ => true
  | _ => false

/-- Two records hold the same evidence about the same incarnation. -/
structure SameEvidence (old new : ModuleRecord) : Prop where
  uid : new.uid = old.uid
  incarnation : new.incarnation = old.incarnation
  claims : new.claims = old.claims
  declarations : new.declarations = old.declarations
  samples : new.samples = old.samples
  latches : new.latches = old.latches
  seriesCounts : new.seriesCounts = old.seriesCounts

/-- The table of the modules (source `State::modules`). -/
abbrev ModuleTable := Std.ExtTreeMap UInt64 ModuleRecord compare

/-- The record a registration adds its claims to (source `Registry::register_module`). -/
inductive Located (modules : ModuleTable) (uid : ModuleUid) (located : ModuleRecord) : Prop where
  /-- A key is seen for the first time (source `Registry::register_module`, the first branch). -/
  | fresh (absent : modules[uid]? = none) (own : located.uid = uid)
      (first : located.incarnation = 1) (claims : located.claims = [])
      (declarations : located.declarations = []) (samples : located.samples = [])
      (latches : located.latches = []) (seriesCounts : located.seriesCounts = ∅)
  /-- The current incarnation is registered again. -/
  | current {record : ModuleRecord} (found : modules[uid]? = some record)
      (same : SameEvidence record located)
  /-- The next incarnation starts without latches (source `Registry::register_module`, the
  replacement branch). -/
  | renewed {record : ModuleRecord} (found : modules[uid]? = some record)
      (room : record.incarnation ≠ 0xFFFFFFFF)
      (next : located.incarnation = record.incarnation + 1)
      (latches : located.latches = [])
      (same : SameEvidence { record with incarnation := located.incarnation, latches := [] }
        located)

/-- What a step does to the modules; `s'` is the state it leads to. -/
inductive ModuleStep [StdSort] (config : RegistryConfig) (s s' : State) (clock : Clock) :
    Operation → Prop where
  /-- The table stays. -/
  | stay {operation} (quiet : operation.addsEvidence = false)
      (written : s'.modules = s.modules) : ModuleStep config s s' clock operation
  /-- A module moves within its lifecycle. -/
  | move {operation uid record record'} (quiet : operation.addsEvidence = false)
      (found : s.modules[uid]? = some record) (same : SameEvidence record record')
      (written : s'.modules = s.modules.insert uid record') : ModuleStep config s s' clock operation
  /-- A registration adds claims (source `Registry::register_module`). -/
  | registerModule {registration authority uid located record' claims}
      (live : sourceIsLive s authority.source authority.epoch = true)
      (named : s'.moduleUidByKey[registration.key.str]? = some uid)
      (locate : Located s.modules uid located)
      (trim : trimClaims (located.claims ++ registration.identity.map (identityClaim authority
        (s.generation + 1) s.nextSequence (clock.wallNowNs 0) (clock.domain 0) located
        registration.provenance)) config.maxClaimsPerModule config.maxClaimHistory = .ok claims)
      (same : SameEvidence { located with claims } record')
      (written : s'.modules = s.modules.insert uid record') :
      ModuleStep config s s' clock (.registerModule registration authority)
  /-- An identity update adds a claim (source `Registry::update_identity`). -/
  | updateIdentity {authority module value provenance policy record claims}
      (live : sourceIsLive s authority.source authority.epoch = true)
      (found : s.modules[module.uid]? = some record)
      (trim : trimClaims (record.claims ++ [identityClaim authority (s.generation + 1)
        s.nextSequence (clock.wallNowNs 0) (clock.domain 0) record provenance value])
        config.maxClaimsPerModule config.maxClaimHistory = .ok claims)
      (written : s'.modules = s.modules.insert module.uid { record with claims }) :
      ModuleStep config s s' clock (.updateIdentity authority module value provenance policy)
  /-- A publication adds a declaration (source `Registry::publish_capability`). -/
  | publishCapability {authority module key subkey value provenance policy record declarations}
      (live : sourceIsLive s authority.source authority.epoch = true)
      (found : s.modules[module.uid]? = some record)
      (trim : trimDeclarations (record.declarations ++ [moduleDeclaration clock authority
        (s.generation + 1) s.nextSequence record key subkey value provenance])
        config.maxDeclarationsPerModule config.maxClaimHistory = .ok declarations)
      (written : s'.modules = s.modules.insert module.uid { record with declarations }) :
      ModuleStep config s s' clock
        (.publishCapability authority module key subkey value provenance policy)
  /-- An ingestion adds a sample and may move a latch (source `Registry::ingest_health`). -/
  | ingestHealth {authority module sample policy record stored latches trim}
      (live : sourceIsLive s authority.source authority.epoch = true)
      (found : s.modules[module.uid]? = some record)
      (current : record.incarnation = module.incarnation)
      (stores : stored = storedSample clock authority (s.generation + 1) s.nextSequence record
        sample (clock.wallNowNs 0))
      (newer : stored.observedAtMonotonicNs ≠ 0 → record.samples.any
        (replays authority sample stored.clockDomain stored.observedAtMonotonicNs) = false)
      (latched : latches = ingestedLatches s record sample stored.observedAtWallNs s.nextSequence
        (s.generation + 1))
      (trims : trim = trimSamples config ⟨record.samples ++ [stored],
        countSample record.seriesCounts (seriesKey sample.metric sample.lane), s.droppedSamples⟩)
      (written : s'.modules = s.modules.insert module.uid { record with
        samples := trim.samples, seriesCounts := trim.seriesCounts, latches }) :
      ModuleStep config s s' clock (.ingestHealth authority module sample policy)

variable {config : RegistryConfig} {clock : Clock} {s s' : State}

/-- Moving a record within its lifecycle keeps its evidence. -/
lemma ModuleRecord.move_sameEvidence (config : RegistryConfig) (record : ModuleRecord)
    (event : LifecycleEvent) : SameEvidence record (record.move config event) := ⟨rfl, rfl, rfl, rfl, rfl, rfl, rfl⟩

variable {authority : AuthorityToken} {t : State}

/-- Locating a module finds its record or makes a new one (source `Registry::register_module`, the
lookup). -/
lemma located_of_locateModule {registration : ModuleRegistration} {generation : Generation}
    {sequence : Sequence} {now : WallNs} {uid : ModuleUid} {located : ModuleRecord}
    (fresh : s.nextModuleUid ∉ s.modules)
    (run : locateModule config registration authority generation sequence now s =
      .ok (t, uid, located)) :
    Located s.modules uid located ∧ t.moduleUidByKey[registration.key.str]? = some uid ∧
      ∀ record, t.modules.insert uid record = s.modules.insert uid record := by
  obtain ⟨_, _, rfl, rfl, rfl⟩ | ⟨record, named, found, ⟨_, _, _, rfl, rfl⟩ | ⟨_, replaced⟩⟩ :=
    locateModule_inv run
  · have absent : s.modules[s.nextModuleUid]? = none :=
      Std.ExtTreeMap.getElem?_eq_none fresh
    refine ⟨.fresh absent rfl rfl rfl rfl rfl rfl rfl, Std.ExtTreeMap.getElem?_insert_self,
      fun _ => insert_insert⟩
  · exact ⟨.current found ⟨rfl, rfl, rfl, rfl, rfl, rfl, rfl⟩, named, fun _ => rfl⟩
  · obtain ⟨room, rfl, rfl⟩ := replaceIncarnation_inv replaced
    exact ⟨.renewed found room rfl rfl ⟨rfl, rfl, rfl, rfl, rfl, rfl, rfl⟩, named, fun _ => rfl⟩

/-- Settling a record keeps what it was located as (source `Registry::register_module`, the second
lookup). -/
lemma SameEvidence.settle {generation : Generation} {sequence : Sequence} {now : WallNs}
    {record record' : ModuleRecord}
    (run : settleDiscovered authority generation sequence now record = .ok record') :
    SameEvidence record record' := by
  obtain ⟨_, rfl⟩ | ⟨_, rfl⟩ := settleDiscovered_inv run <;>
    exact ⟨rfl, rfl, rfl, rfl, rfl, rfl, rfl⟩

/-- A claim is made about the incarnation of the record (source the blocks that fill an
`IdentityClaim`). -/
lemma identityClaim_congr {generation : Generation} {sequence : Sequence} {now : WallNs}
    {domain : ClockDomainId} {record record' : ModuleRecord} {provenance : Provenance}
    (same : SameEvidence record record') :
    identityClaim authority generation sequence now domain record' provenance =
      identityClaim authority generation sequence now domain record provenance := by
  funext value
  simp only [identityClaim, same.uid, same.incarnation]

section Body

variable [StdSort]

/-- What the body of an operation does to the modules. -/
lemma moduleStep_of_body (fresh : s.nextModuleUid ∉ s.modules) {operation : Operation} {next : State}
    (run : operation.body config clock (nextSequence s).2 (s.generation + 1) (nextSequence s).1 =
      .ok next) :
    ModuleStep config s (next.publish (s.generation + 1)) clock operation := by
  cases operation <;> rw [Operation.body, fst_map_eq_ok] at run <;> obtain ⟨result, run⟩ := run
  case registerSource =>
    obtain ⟨_, _, _, _, _, _, rfl⟩ | ⟨_, _, _, rfl⟩ := registerSourceBody_inv run <;>
      exact .stay rfl rfl
  case registerModule registration authority =>
    obtain ⟨auth, t, uid, located, record, claims, locate, settle, trim, rfl⟩ :=
      registerModuleBody_inv run
    obtain ⟨found, named, written⟩ := located_of_locateModule (s := (nextSequence s).2) fresh locate
    have same := SameEvidence.settle settle
    rw [same.claims, identityClaim_congr same] at trim
    refine .registerModule (requireAuthority_eq_ok.1 auth).2 named found trim ?_ (written _)
    exact ⟨same.uid, same.incarnation, rfl, same.declarations, same.samples, same.latches,
      same.seriesCounts⟩
  case updateIdentity =>
    obtain ⟨auth, record, claims, found, trim, rfl⟩ := updateIdentityBody_inv run
    exact .updateIdentity (requireAuthority_eq_ok.1 auth).2 found trim rfl
  case publishCapability =>
    obtain ⟨auth, record, declarations, found, trim, rfl⟩ := publishCapabilityBody_inv run
    exact .publishCapability (requireAuthority_eq_ok.1 auth).2 found trim rfl
  case publishPortCapability =>
    obtain ⟨_, _, _, _, _, _, _, rfl⟩ := publishPortCapabilityBody_inv run
    exact .stay rfl rfl
  case attach =>
    obtain ⟨_, record, found, _, ⟨_, _, rfl⟩ | ⟨_, _, _, rfl, rfl⟩⟩ := attachBody_inv run
    · exact .stay rfl rfl
    · refine .move rfl found ?_ rfl
      split
      · exact record.move_sameEvidence config _
      · exact ⟨rfl, rfl, rfl, rfl, rfl, rfl, rfl⟩
  case detach authority slot _ =>
    obtain ⟨_, attachment, _, _, rfl⟩ := detachBody_inv run
    cases found : s.modules[attachment.uid]? with
    | none => exact .stay rfl (by simp [State.publish, nextSequence, found])
    | some record =>
      by_cases placed : record.incarnation = attachment.incarnation ∧
          lifecycleStateImpliesAttachment record.state = true
      · refine .move rfl found (record.move_sameEvidence config (lifecycleEvent authority
          (s.generation + 1) (nextSequence s).1 (clock.wallNowNs 0) record.incarnation record.state
          .removed (text "module detached from slot " ++ slot.str))) ?_
        simp [State.publish, nextSequence, found, placed]
      · exact .stay rfl (by simp [State.publish, nextSequence, found, placed])
  case ingestHealth =>
    obtain ⟨auth, record, stored, latches, found, current, stores, newer, latched, trim, trims,
      rfl⟩ := ingestHealthBody_inv run
    exact .ingestHealth (requireAuthority_eq_ok.1 auth).2 found current stores newer latched trims
      rfl
  case publishThreshold =>
    obtain ⟨_, _, rfl⟩ := publishThresholdBody_inv run
    exact .stay rfl rfl
  case publishRule =>
    obtain ⟨_, _, rfl⟩ := publishRuleBody_inv run
    exact .stay rfl rfl
  case retireRule =>
    obtain ⟨_, _, _, _, rfl⟩ := retireRuleBody_inv run
    exact .stay rfl rfl
  case transition =>
    obtain ⟨_, record, found, _, _, rfl, rfl⟩ := transitionBody_inv run
    exact .move rfl found (record.move_sameEvidence config _) rfl
  case reconcileLifecycle =>
    obtain ⟨_, record, target, found, _, _, ⟨_, rfl⟩ | ⟨_, _, rfl, rfl⟩⟩ :=
      reconcileLifecycleBody_inv run
    · exact .stay rfl rfl
    · exact .move rfl found (record.move_sameEvidence config _) rfl

/-- What a step does to the modules when the next uid is not taken (source
`RegistryImpl::mutate`). -/
lemma moduleStep_of_fresh (fresh : s.nextModuleUid ∉ s.modules) {call : Call}
    (taken : step config s call = some s') :
    ModuleStep config s s' call.clock call.operation := by
  obtain ⟨_, next, run, rfl⟩ := step_eq_some taken
  exact moduleStep_of_body fresh run

/-- What a step does to the modules (source `RegistryImpl::mutate`). -/
theorem step_moduleStep (coherent : Coherent config s) {call : Call}
    (taken : step config s call = some s') :
    ModuleStep config s s' call.clock call.operation :=
  moduleStep_of_fresh (coherent.modules.number.fresh rfl) taken

end Body

end TransceiverRegistry
