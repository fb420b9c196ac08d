import TransceiverRegistry.Registry.Trim

/-!
# Sources, modules and their evidence

Port of `register_source`, `register_module`, `update_identity`, `publish_capability` and
`publish_port_capability` of `registry.cpp`. The body of each mutation is a definition of its own,
as it is a lambda of its own in the source.
-/

namespace TransceiverRegistry

open Lib

/-- The policy asks for a generation (source `policy == MutationPolicy::RequireGeneration`). -/
def MutationPolicy.fenced (policy : MutationPolicy) : Bool := policy = .requireGeneration

/-- The module of a handle, when the caller may act on it (source the head of the mutation
bodies). -/
def currentModule (s : State) (authority : AuthorityToken) (module : ModuleHandle)
    (fenced : String) : Result ModuleRecord := do
  requireAuthority s authority
  let record ← orRefuse s.modules[module.uid]? (makeError .notFound "no such module")
  refuseIf (incarnationIsCurrent record module.incarnation = false) (makeError .fenced fenced)
  .ok record

/-- What acting on a module established (source the head of the mutation bodies). -/
lemma currentModule_eq_ok {s : State} {authority : AuthorityToken} {module : ModuleHandle}
    {fenced : String} {record : ModuleRecord} :
    currentModule s authority module fenced = .ok record ↔
      requireAuthority s authority = .ok () ∧ s.modules[module.uid]? = some record ∧
      record.incarnation = module.incarnation := by
  simp only [currentModule, bind_eq_ok, orRefuse_eq_ok, refuseIf_eq_ok, incarnationIsCurrent,
    decide_eq_false_iff_not, not_not]
  constructor
  · rintro ⟨_, auth, _, found, _, current, e⟩
    cases e
    exact ⟨auth, found, current⟩
  · rintro ⟨auth, found, current⟩
    exact ⟨(), auth, record, found, (), current, rfl⟩

/-- Record a move made by an authority (source the blocks that fill a `LifecycleEvent`). -/
def lifecycleEvent (authority : AuthorityToken) (generation : Generation) (sequence : Sequence)
    (now : WallNs) (incarnation : IncarnationId) (from_ to_ : LifecycleState) (reason : Bytes) :
    LifecycleEvent where
  from_
  to_
  incarnation
  reason
  source := authority.source
  sourceEpoch := authority.epoch
  generation
  sequence
  wallNs := now

/-- The body of `register_source` (source `Registry::register_source`). -/
def registerSourceBody (config : RegistryConfig) (clock : Clock) (descriptor : SourceDescriptor)
    (s : State) (generation : Generation) (sequence : Sequence) :
    Result (State × SourceHandle) := do
  let now := clock.wallNowNs 0
  match s.sourceIdByName[descriptor.name]? with
  | some id =>
    let record ← orRefuse s.sources[id]? (makeError .internal "map::at")
    let renewal := descriptor.instanceId ≠ [] ∧
      descriptor.instanceId = record.descriptor.instanceId
    refuseIf (¬ renewal ∧ record.epoch = 0xFFFFFFFF)
      (makeError .capacityExceeded "source incarnation counter is exhausted")
    let epoch := if renewal then record.epoch else record.epoch + 1
    let record := { record with
      epoch, descriptor, generation, sequence, registeredWallNs := now }
    .ok ({ s with sources := s.sources.insert record.id record },
      ⟨record.id, record.epoch, generation⟩)
  | none =>
    refuseIf (config.maxSources.toNat ≤ s.sources.size)
      (makeError .capacityExceeded "source budget is exhausted")
    let id := s.nextSourceId.toUInt32
    refuseIf (0xFFFFFFFF ≤ s.nextSourceId)
      (makeError .capacityExceeded "source id space is exhausted")
    let record : SourceRecord := {
      id, name := descriptor.name, epoch := 1, descriptor, generation, sequence
      registeredWallNs := now }
    .ok ({ s with
      nextSourceId := s.nextSourceId + 1
      sources := s.sources.insert id record
      sourceIdByName := s.sourceIdByName.insert descriptor.name id }, ⟨id, 1, generation⟩)

/-- Register or renew an evidence source (source `Registry::register_source`). -/
def registerSource (config : RegistryConfig) (clock : Clock) (descriptor : SourceDescriptor)
    (policy : MutationPolicy) (s : State) : Result (State × SourceHandle) := do
  refuseIf (descriptor.name = [] ∨ kMaxKeyBytes < descriptor.name.length)
    (makeError .invalidArgument "source name must be between 1 and 128 characters")
  refuseIf (isValidUtf8 descriptor.name = false ∨ isValidUtf8 descriptor.instanceId = false)
    (makeError .invalidArgument "source descriptor text must be valid UTF-8")
  refuseIf (512 < descriptor.description.length ∨ 128 < descriptor.instanceId.length)
    (makeError .invalidArgument "source descriptor text is too long")
  mutate policy.fenced 0 (registerSourceBody config clock descriptor) s

/-- What a registration asks for (source `RegisterIntent`). -/
inductive RegisterIntent where
  | ensureCurrent | newIncarnation
deriving DecidableEq

/-- A request to register a module (source `ModuleRegistration`). -/
structure ModuleRegistration where
  key : ModuleKey
  identity : List IdentityFieldValue
  intent : RegisterIntent
  provenance : Provenance
  policy : MutationPolicy
  expectedGeneration : Generation

/-- A module seen for the first time (source `Registry::register_module`, the first branch). -/
def discoveredModule (authority : AuthorityToken) (generation : Generation) (sequence : Sequence)
    (now : WallNs) (key : ModuleKey) (uid : ModuleUid) : ModuleRecord where
  key
  uid
  incarnation := 1
  state := .discovered
  stateGeneration := generation
  stateSequence := sequence
  stateWallNs := now
  createdGeneration := generation
  createdSequence := sequence
  createdWallNs := now
  fencedGeneration := 0
  incarnationCount := 1
  claims := []
  declarations := []
  samples := []
  lifecycle := [lifecycleEvent authority generation sequence now 1 .discovered .discovered
    (text "module key observed for the first time")]
  latches := []
  seriesCounts := ∅

/-- Take a slot away from the module that occupies it (source `Registry::register_module`, the loop
over the attachments). -/
def releaseAttachment (uid : ModuleUid) (attachment : AttachmentRecord) : AttachmentRecord :=
  if attachment.live = true ∧ attachment.uid = uid then
    { attachment with live := false, note := text "the module occupying this slot was replaced" }
  else attachment

/-- Fence the current incarnation of a module and start the next one
(source `Registry::register_module`, the replacement branch). -/
def replaceIncarnation (authority : AuthorityToken) (generation : Generation)
    (sequence : Sequence) (now : WallNs) (record : ModuleRecord) (s : State) :
    Result (State × ModuleRecord) := do
  let fences := record.state ≠ .replaced ∧ record.state ≠ .retired
  let replaced := lifecycleEvent authority generation sequence now record.incarnation record.state
    .replaced (text "a new physical module incarnation was registered for this module key")
  let lifecycle := if fences then record.lifecycle ++ [replaced] else record.lifecycle
  -- a module that is already replaced or retired keeps its slot here
  let attachments :=
    if fences then s.attachments.map fun _ a => releaseAttachment record.uid a else s.attachments
  refuseIf (record.incarnation = 0xFFFFFFFF)
    (makeError .capacityExceeded "module incarnation counter is exhausted")
  let incarnation := record.incarnation + 1
  let observed := lifecycleEvent authority generation sequence now incarnation .discovered
    .discovered (text "new module incarnation discovered")
  .ok ({ s with attachments }, { record with
    incarnation
    incarnationCount := record.incarnationCount + 1
    state := .discovered
    fencedGeneration := generation
    latches := []
    lifecycle := lifecycle ++ [observed] })

/-- Find, create or replace the module of a key (source `Registry::register_module`, the lookup). -/
def locateModule (config : RegistryConfig) (registration : ModuleRegistration)
    (authority : AuthorityToken) (generation : Generation) (sequence : Sequence) (now : WallNs)
    (s : State) : Result (State × ModuleUid × ModuleRecord) := do
  match s.moduleUidByKey[registration.key.str]? with
  | none =>
    refuseIf (config.maxModules.toNat ≤ s.modules.size)
      (makeError .capacityExceeded "module budget is exhausted")
    let uid := s.nextModuleUid
    let record := discoveredModule authority generation sequence now registration.key uid
    .ok ({ s with
      nextModuleUid := s.nextModuleUid + 1
      modules := s.modules.insert uid record
      moduleUidByKey := s.moduleUidByKey.insert registration.key.str uid }, uid, record)
  | some uid =>
    let record ← orRefuse s.modules[uid]? (makeError .internal "map::at")
    match registration.intent with
    | .ensureCurrent =>
      refuseIf (record.state = .replaced ∨ record.state = .retired) (makeError .staleIncarnation
        ("this module key was replaced or retired; declare a new incarnation to register a " ++
          "replacement"))
      .ok (s, uid, record)
    | .newIncarnation => do
      let (s, record) ← replaceIncarnation authority generation sequence now record s
      .ok (s, uid, record)

/-- Register a module that is only discovered (source `Registry::register_module`, the second
lookup). -/
def settleDiscovered (authority : AuthorityToken) (generation : Generation) (sequence : Sequence)
    (now : WallNs) (record : ModuleRecord) : Result ModuleRecord := do
  if record.state = .discovered then
    refuseIf (lifecycleTransitionAllowed record.state .registered = false)
      (makeError .internal "discovered modules must be registrable")
    .ok { record with
      state := .registered
      stateGeneration := generation
      stateSequence := sequence
      stateWallNs := now
      lifecycle := record.lifecycle ++ [lifecycleEvent authority generation sequence now
        record.incarnation record.state .registered (text "module identity registered")] }
  else .ok record

/-- Record a statement about one identity field (source the blocks that fill an
`IdentityClaim`). -/
def identityClaim (authority : AuthorityToken) (generation : Generation) (sequence : Sequence)
    (now : WallNs) (domain : ClockDomainId) (record : ModuleRecord) (provenance : Provenance)
    (value : IdentityFieldValue) : IdentityClaim where
  field := value.field
  subkey := value.subkey
  value := value.value
  source := authority.source
  sourceEpoch := authority.epoch
  module := record.uid
  incarnation := record.incarnation
  generation
  sequence
  observedAtWallNs := now
  clockDomain := domain
  provenance
  live := true

/-- The body of `register_module` (source `Registry::register_module`). -/
def registerModuleBody [StdSort] (config : RegistryConfig) (clock : Clock)
    (registration : ModuleRegistration) (authority : AuthorityToken) (s : State)
    (generation : Generation) (sequence : Sequence) : Result (State × ModuleHandle) := do
  requireAuthority s authority
  let now := clock.wallNowNs 0
  let (s, uid, record) ← locateModule config registration authority generation sequence now s
  let record ← settleDiscovered authority generation sequence now record
  let claims ← trimClaims
    (record.claims ++ registration.identity.map
      (identityClaim authority generation sequence now (clock.domain 0) record
        registration.provenance))
    config.maxClaimsPerModule config.maxClaimHistory
  let record := { record with claims, lifecycle := trimLifecycle config record.lifecycle }
  .ok ({ s with modules := s.modules.insert uid record },
    ⟨record.uid, record.incarnation, generation, record.key⟩)

/-- Register a module, or a new physical module under its key
(source `Registry::register_module`). -/
def registerModule [StdSort] (config : RegistryConfig) (clock : Clock)
    (registration : ModuleRegistration) (authority : AuthorityToken) (s : State) :
    Result (State × ModuleHandle) := do
  refuseIf (registration.key.str = [])
    (makeError .invalidArgument "module registration requires a module key")
  validateProvenance registration.provenance
  forEach validateIdentityValue registration.identity
  refuseIf (¬ (registration.identity.map fun value => (value.field, value.subkey)).Nodup)
    (makeError .invalidArgument "module registration repeats an identity field")
  mutate registration.policy.fenced registration.expectedGeneration
    (registerModuleBody config clock registration authority) s

/-- The body of `update_identity` (source `Registry::update_identity`). -/
def updateIdentityBody [StdSort] (config : RegistryConfig) (clock : Clock)
    (authority : AuthorityToken) (module : ModuleHandle) (value : IdentityFieldValue)
    (provenance : Provenance) (s : State) (generation : Generation) (sequence : Sequence) :
    Result (State × Unit) := do
  let record ← currentModule s authority module
    "the referenced module incarnation was replaced; identity updates cannot target it"
  let claims ← trimClaims
    (record.claims ++ [identityClaim authority generation sequence (clock.wallNowNs 0)
      (clock.domain 0) record provenance value])
    config.maxClaimsPerModule config.maxClaimHistory
  .ok ({ s with modules := s.modules.insert module.uid { record with claims } }, ())

/-- Add a claim about a module (source `Registry::update_identity`). -/
def updateIdentity [StdSort] (config : RegistryConfig) (clock : Clock)
    (authority : AuthorityToken) (module : ModuleHandle) (value : IdentityFieldValue)
    (provenance : Provenance) (policy : MutationPolicy) (s : State) : Result (State × Unit) := do
  validateIdentityValue value
  validateProvenance provenance
  mutate policy.fenced module.generation
    (updateIdentityBody config clock authority module value provenance) s

/-- Accept the key and the subkey of a capability (source the head of `publish_capability` and
`publish_port_capability`). -/
def validateCapabilityKey (key : CapabilityKey) (subkey : Bytes) : Result Unit := do
  refuseIf (key = .unknown ∨ key = .unsupported)
    (makeError .unsupported "this runtime does not model the requested capability key")
  refuseIf (key = .vendorSpecific ∧ subkey = [])
    (makeError .invalidArgument "vendor specific capabilities require a subkey")
  refuseIf (key ≠ .vendorSpecific ∧ subkey ≠ [])
    (makeError .invalidArgument "only vendor specific capabilities may carry a subkey")

/-- The declaration a publication adds to a module (source `Registry::publish_capability`). -/
def moduleDeclaration (clock : Clock) (authority : AuthorityToken) (generation : Generation)
    (sequence : Sequence) (record : ModuleRecord) (key : CapabilityKey) (subkey : Bytes)
    (value : CapabilityValue) (provenance : Provenance) : CapabilityDeclaration where
  key
  subkey
  value
  source := authority.source
  sourceEpoch := authority.epoch
  module := record.uid
  incarnation := record.incarnation
  port := .none
  moduleSubject := true
  generation
  sequence
  observedAtWallNs := clock.wallNowNs 0
  clockDomain := clock.domain 0
  provenance
  live := true

/-- The body of `publish_capability` (source `Registry::publish_capability`). -/
def publishCapabilityBody [StdSort] (config : RegistryConfig) (clock : Clock)
    (authority : AuthorityToken) (module : ModuleHandle) (key : CapabilityKey) (subkey : Bytes)
    (value : CapabilityValue) (provenance : Provenance) (s : State) (generation : Generation)
    (sequence : Sequence) : Result (State × Unit) := do
  let record ← currentModule s authority module
    "the referenced module incarnation was replaced; capability publications cannot target it"
  let declaration :=
    moduleDeclaration clock authority generation sequence record key subkey value provenance
  let declarations ← trimDeclarations (record.declarations ++ [declaration])
    config.maxDeclarationsPerModule config.maxClaimHistory
  .ok ({ s with modules := s.modules.insert module.uid { record with declarations } }, ())

/-- Declare a capability of a module (source `Registry::publish_capability`). -/
def publishCapability [StdSort] (config : RegistryConfig) (clock : Clock)
    (authority : AuthorityToken) (module : ModuleHandle) (key : CapabilityKey) (subkey : Bytes)
    (value : CapabilityValue) (provenance : Provenance) (policy : MutationPolicy) (s : State) :
    Result (State × Unit) := do
  validateCapabilityKey key subkey
  refuseIf (128 < subkey.length) (makeError .invalidArgument "capability subkey is too long")
  value.validateFor key
  validateProvenance provenance
  mutate policy.fenced module.generation
    (publishCapabilityBody config clock authority module key subkey value provenance) s

/-- The record of a port, created when it is new (source `Registry::publish_port_capability`). -/
def locatePort (config : RegistryConfig) (clock : Clock) (port : PortKey) (s : State)
    (generation : Generation) (sequence : Sequence) : Result PortRecord :=
  match s.ports[port.str]? with
  | some record => .ok record
  | none => do
    refuseIf (config.maxPorts.toNat ≤ s.ports.size)
      (makeError .capacityExceeded "port budget is exhausted")
    .ok {
      key := port, firstGeneration := generation, sequence, firstWallNs := clock.wallNowNs 0
      declarations := [] }

/-- The declaration a publication adds to a port (source `Registry::publish_port_capability`). -/
def portDeclaration (clock : Clock) (authority : AuthorityToken) (generation : Generation)
    (sequence : Sequence) (port : PortKey) (key : CapabilityKey) (subkey : Bytes)
    (value : CapabilityValue) (provenance : Provenance) : CapabilityDeclaration where
  key
  subkey
  value
  source := authority.source
  sourceEpoch := authority.epoch
  module := 0
  incarnation := 0
  port
  moduleSubject := false
  generation
  sequence
  observedAtWallNs := clock.wallNowNs 1
  clockDomain := clock.domain 0
  provenance
  live := true

/-- The declarations of a port with room for one more (source
`Registry::publish_port_capability`). -/
def portRoom (config : RegistryConfig) (record : PortRecord) :
    Result (List CapabilityDeclaration) :=
  if config.maxDeclarationsPerPort.toNat ≤ record.declarations.length then
    trimPortDeclarations record.declarations (config.maxDeclarationsPerPort - 1)
  else .ok record.declarations

/-- The body of `publish_port_capability` (source `Registry::publish_port_capability`). -/
def publishPortCapabilityBody (config : RegistryConfig) (clock : Clock)
    (authority : AuthorityToken) (port : PortKey) (key : CapabilityKey) (subkey : Bytes)
    (value : CapabilityValue) (provenance : Provenance) (s : State) (generation : Generation)
    (sequence : Sequence) : Result (State × Unit) := do
  requireAuthority s authority
  let record ← locatePort config clock port s generation sequence
  let earlier ← portRoom config record
  let declaration :=
    portDeclaration clock authority generation sequence port key subkey value provenance
  let declarations ← trimPortDeclarations (earlier ++ [declaration])
    config.maxDeclarationsPerPort
  .ok ({ s with ports := s.ports.insert port.str { record with declarations } }, ())

/-- Declare a capability of a host port (source `Registry::publish_port_capability`). -/
def publishPortCapability (config : RegistryConfig) (clock : Clock)
    (authority : AuthorityToken) (port : PortKey) (key : CapabilityKey) (subkey : Bytes)
    (value : CapabilityValue) (provenance : Provenance) (policy : MutationPolicy) (s : State) :
    Result (State × Unit) := do
  validateCapabilityKey key subkey
  refuseIf (port.str = []) (makeError .invalidArgument "a port key is required")
  value.validateFor key
  validateProvenance provenance
  mutate policy.fenced 0
    (publishPortCapabilityBody config clock authority port key subkey value provenance) s

end TransceiverRegistry
