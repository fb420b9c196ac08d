import TransceiverRegistry.Registry.Knowledge

/-!
# Housed records

What a restart needs of a registry besides consistency: every port is stored under its own key, every
slot names a module, and no two claims about one attribute of a module share a sequence number. Every
step of a consistent registry keeps this.
-/

namespace TransceiverRegistry

open Lib

/-- Every port is stored under its own key, and every slot names a module (source `State::ports`,
`State::attachments`). -/
structure Housed (s : State) : Prop where
  ports : Keyed (fun record : PortRecord => record.key.str) s.ports
  slots : SlotTable s.attachments s.modules

/-- No two claims about one attribute of a module share a sequence number (source
`ModuleRecord::claims`). -/
def ClaimsTold (s : State) : Prop :=
  ∀ (uid : ModuleUid) record, s.modules[uid]? = some record →
    TellsApart claimReading IdentityClaim.subject record.claims

variable {config : RegistryConfig} {clock : Clock} {s s' : State} {generation : Generation}
  {sequence : Sequence} {authority : AuthorityToken} {module : ModuleHandle}

/-- A registry in which nothing is registered is housed, at every generation. -/
lemma Housed.blank : Housed { State.initial with generation } :=
  ⟨Keyed.empty, Keyed.empty, fun slot attachment taken => by simp [State.initial] at taken⟩

/-- Writing a module keeps the records housed (source `state.modules.at(uid) = record`). -/
lemma Housed.setModule (h : Housed s) {uid : ModuleUid} {record : ModuleRecord} {dropped : UInt64} :
    Housed { s with modules := s.modules.insert uid record, droppedSamples := dropped } :=
  ⟨h.ports, h.slots.setModule uid record⟩

/-- Registering a module keeps the records housed (source `Registry::register_module`). -/
lemma Housed.registerModule [StdSort] (h : Housed s) {registration : ModuleRegistration}
    {handle : ModuleHandle}
    (run : registerModuleBody config clock registration authority s generation sequence =
      .ok (s', handle)) : Housed s' := by
  obtain ⟨_, t, uid, located, record, claims, locate, _, _, rfl⟩ := registerModuleBody_inv run
  obtain ⟨_, _, rfl, rfl, rfl⟩ | ⟨old, _, found, ⟨_, _, _, rfl, rfl⟩ | ⟨_, replaced⟩⟩ :=
    locateModule_inv locate
  · exact ⟨h.ports, (h.slots.setModule _ _).setModule _ _⟩
  · exact ⟨h.ports, h.slots.setModule _ _⟩
  · obtain ⟨_, rfl, rfl⟩ := replaceIncarnation_inv replaced
    refine ⟨h.ports, SlotTable.setModule ?_ _ _⟩
    split
    · exact h.slots.release old.uid
    · exact h.slots

/-- Attaching keeps the records housed (source `Registry::attach`). -/
lemma Housed.attach (h : Housed s) (keyed : Keyed ModuleRecord.uid s.modules) {slot : SlotKey}
    {portIndex : UInt32} {attachment : AttachmentRecord}
    (run : attachBody config clock authority module slot portIndex s generation sequence =
      .ok (s', attachment)) : Housed s' := by
  obtain ⟨_, record, found, _, ⟨_, _, rfl⟩ | ⟨_, _, _, rfl, rfl⟩⟩ := attachBody_inv run
  · exact h
  · have own : record.uid = module.uid := keyed _ record found
    refine ⟨h.ports, (h.slots.setModule _ _).setSlot rfl ?_⟩
    rw [Std.ExtTreeMap.mem_insert]
    exact .inl (by simp [newAttachment, own])

/-- Detaching keeps the records housed (source `Registry::detach`). -/
lemma Housed.detach (h : Housed s) {slot : SlotKey} {u : Unit}
    (run : detachBody config clock authority slot s generation sequence = .ok (s', u)) :
    Housed s' := by
  obtain ⟨_, attachment, taken, _, rfl⟩ := detachBody_inv run
  have own : attachment.slot.str = slot.str := h.slots.key _ _ taken
  have freed : SlotTable (s.attachments.insert slot.str { attachment with
      live := false, note := text "detached" }) s.modules := by
    refine h.slots.setSlot ?_ ?_
    · exact own
    · exact h.slots.named _ attachment taken
  split
  · split
    · exact ⟨h.ports, freed.setModule _ _⟩
    · exact ⟨h.ports, freed⟩
  · exact ⟨h.ports, freed⟩

/-- The body of every operation keeps the records housed. -/
lemma Housed.body [StdSort] (h : Housed s) (keyed : Keyed ModuleRecord.uid s.modules)
    {operation : Operation} (run : operation.body config clock s generation sequence = .ok s') :
    Housed s' := by
  cases operation <;> rw [Operation.body, fst_map_eq_ok] at run <;> obtain ⟨result, run⟩ := run
  case registerSource =>
    obtain ⟨_, _, _, _, _, _, rfl⟩ | ⟨_, _, _, rfl⟩ := registerSourceBody_inv run <;>
      exact ⟨h.ports, h.slots⟩
  case registerModule => exact h.registerModule run
  case updateIdentity =>
    obtain ⟨_, _, _, _, _, rfl⟩ := updateIdentityBody_inv run
    exact h.setModule
  case publishCapability =>
    obtain ⟨_, _, _, _, _, rfl⟩ := publishCapabilityBody_inv run
    exact h.setModule
  case publishPortCapability port _ _ _ _ _ =>
    obtain ⟨_, record, _, _, locate, _, _, rfl⟩ := publishPortCapabilityBody_inv run
    have own : record.key.str = port.str := by
      obtain found | ⟨_, _, rfl⟩ := locatePort_inv locate
      · exact h.ports _ _ found
      · rfl
    exact ⟨h.ports.insert own, h.slots⟩
  case attach => exact h.attach keyed run
  case detach => exact h.detach run
  case ingestHealth =>
    obtain ⟨_, _, _, _, _, _, _, _, _, _, _, rfl⟩ := ingestHealthBody_inv run
    exact h.setModule
  case publishThreshold =>
    obtain ⟨_, _, rfl⟩ := publishThresholdBody_inv run
    exact ⟨h.ports, h.slots⟩
  case publishRule =>
    obtain ⟨_, _, rfl⟩ := publishRuleBody_inv run
    exact ⟨h.ports, h.slots⟩
  case retireRule =>
    obtain ⟨_, _, _, _, rfl⟩ := retireRuleBody_inv run
    exact ⟨h.ports, h.slots⟩
  case transition =>
    obtain ⟨_, _, _, _, _, _, rfl⟩ := transitionBody_inv run
    exact h.setModule
  case reconcileLifecycle =>
    obtain ⟨_, _, _, _, _, _, ⟨_, rfl⟩ | ⟨_, _, _, rfl⟩⟩ := reconcileLifecycleBody_inv run
    · exact h
    · exact h.setModule

/-- A step keeps the records housed (source `RegistryImpl::mutate`). -/
lemma Housed.step [StdSort] (h : Housed s) (consistent : Consistent s) {call : Call}
    (taken : step config s call = some s') : Housed s' := by
  obtain ⟨_, next, run, rfl⟩ := step_eq_some taken
  have reserved : Housed (nextSequence s).2 := ⟨h.ports, h.slots⟩
  have housed := reserved.body consistent.modules.keyed run
  exact ⟨housed.ports, housed.slots⟩

section Told

variable {claims claims' batch : List IdentityClaim}

/-- Newer claims about different attributes are told apart from the older ones. -/
lemma claimsTold_append (told : TellsApart claimReading IdentityClaim.subject claims)
    (before : ∀ claim ∈ claims, claim.sequence < s.nextSequence)
    (now : ∀ claim ∈ batch, claim.sequence = s.nextSequence)
    (subjects : (batch.map IdentityClaim.subject).Nodup) :
    TellsApart claimReading IdentityClaim.subject (claims ++ batch) := by
  refine List.pairwise_append.2 ⟨told, ?_, fun old inOld new inNew _ same => ?_⟩
  · exact (List.pairwise_map.1 subjects).imp fun {_ _} differ same => absurd same differ
  · have earlier := before old inOld
    have same : old.sequence = new.sequence := same
    rw [same, now new inNew] at earlier
    exact UInt64.lt_irrefl _ earlier

/-- A stored claim has a sequence number of the past. -/
lemma Consistent.claim_lt (consistent : Consistent s) {uid : ModuleUid} {record : ModuleRecord}
    (found : s.modules[uid]? = some record) {claim : IdentityClaim}
    (member : claim ∈ record.claims) : claim.sequence < s.nextSequence :=
  (consistent.evidence uid record found _ (mem_origins.2 (.inl ⟨claim, member, rfl⟩))).1.sequence

/-- The claims of a located module are in the past and told apart (source
`Registry::register_module`, the lookup). -/
lemma Located.claimsTold {uid : ModuleUid} {located : ModuleRecord} (told : ClaimsTold s)
    (consistent : Consistent s) (locate : Located s.modules uid located) :
    TellsApart claimReading IdentityClaim.subject located.claims ∧
      ∀ claim ∈ located.claims, claim.sequence < s.nextSequence := by
  obtain ⟨_, none, _⟩ | ⟨record, found, _, claims, _⟩ := locate.statements
  · rw [none]
    exact ⟨.nil, fun _ member => (List.not_mem_nil member).elim⟩
  · rw [claims]
    exact ⟨told uid record found, fun _ => consistent.claim_lt found⟩

/-- A step keeps the claims of every module told apart (source `RegistryImpl::mutate`). -/
lemma ClaimsTold.step [StdSort] (told : ClaimsTold s) (consistent : Consistent s) {call : Call}
    (taken : step config s call = some s') : ClaimsTold s' := by
  have checked := (step_eq_some taken).1
  have does := moduleStep_of_fresh (consistent.modules.fresh rfl) taken
  obtain ⟨operation, clock⟩ := call
  intro uid record found
  cases does with
  | stay quiet written => exact told uid record (written ▸ found)
  | move quiet before same written =>
    rw [written] at found
    obtain ⟨rfl, rfl⟩ | ⟨_, found⟩ := getElem?_insert_iff.1 found
    · rw [same.claims]
      exact told _ _ before
    · exact told uid record found
  | registerModule live named locate trim same written =>
    rw [written] at found
    obtain ⟨rfl, rfl⟩ | ⟨_, found⟩ := getElem?_insert_iff.1 found
    · rw [same.claims]
      obtain ⟨apart, before⟩ := locate.claimsTold told consistent
      refine (claimsTold_append apart before (fun claim member => ?_) ?_).sublist
        (trimClaims_sublist trim)
      · obtain ⟨value, _, rfl⟩ := List.mem_map.1 member
        rfl
      · rw [List.map_map]
        exact checked.2.2.2
    · exact told uid record found
  | updateIdentity live known trim written =>
    rw [written] at found
    obtain ⟨rfl, rfl⟩ | ⟨_, found⟩ := getElem?_insert_iff.1 found
    · refine (claimsTold_append (told _ _ known) (fun _ => consistent.claim_lt known)
        (fun claim member => ?_) ?_).sublist (trimClaims_sublist trim)
      · rw [List.mem_singleton.1 member]
        rfl
      · exact List.nodup_singleton _
    · exact told uid record found
  | publishCapability live known trim written =>
    rw [written] at found
    obtain ⟨rfl, rfl⟩ | ⟨_, found⟩ := getElem?_insert_iff.1 found
    · have kept := told _ _ known
      exact kept
    · exact told uid record found
  | ingestHealth live known current stores newer latched trims written =>
    rw [written] at found
    obtain ⟨rfl, rfl⟩ | ⟨_, found⟩ := getElem?_insert_iff.1 found
    · have kept := told _ _ known
      exact kept
    · exact told uid record found

/-- The declarations of a module are told apart by their sequence numbers. -/
lemma ModuleRecord.Dated.told {record : ModuleRecord} (dated : record.Dated) :
    TellsApart declarationReading CapabilityDeclaration.subject record.declarations :=
  dated.dated.apart.imp fun {_ _} differ _ same => differ (congrArg UInt64.toNat same)

end Told

end TransceiverRegistry
