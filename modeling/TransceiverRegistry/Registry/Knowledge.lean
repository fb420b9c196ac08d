import TransceiverRegistry.Registry.Publishing
import TransceiverRegistry.Registry.Queries

/-!
# Knowledge

Two states have the same knowledge when they hold the same sources, modules, ports, slots, policies and
rules, whatever the order in which a module holds what was stated and measured about it. What is
answered about identity, capabilities and compatibility is read from the knowledge alone, as long as no
two statements about one attribute of a module share a sequence number.
-/

namespace TransceiverRegistry

open Lib

/-- Two records of a module with the same knowledge. -/
structure ModuleRecord.Alike (record record' : ModuleRecord) : Prop where
  key : record'.key = record.key
  uid : record'.uid = record.uid
  incarnation : record'.incarnation = record.incarnation
  incarnations : record'.incarnationCount = record.incarnationCount
  state : record'.state = record.state
  claims : record.claims.Perm record'.claims
  declarations : record.declarations.Perm record'.declarations
  samples : record.samples.Perm record'.samples
  /-- A module without events comes back with one. -/
  lifecycle : record.lifecycle ≠ [] → record.lifecycle.Perm record'.lifecycle

/-- What is known about a source. -/
def SourceRecord.known (source : SourceRecord) : Bytes × SourceEpoch × SourceDescriptor × WallNs :=
  (source.name, source.epoch, source.descriptor, source.registeredWallNs)

/-- What is known about a port. -/
def PortRecord.known (record : PortRecord) : PortKey × List CapabilityDeclaration :=
  (record.key, record.declarations)

/-- Two states with the same knowledge. -/
structure State.Alike (s s' : State) : Prop where
  sources : ∀ id : SourceId,
    s'.sources[id]?.map SourceRecord.known = s.sources[id]?.map SourceRecord.known
  modules : ∀ uid : ModuleUid, Option.Rel ModuleRecord.Alike s.modules[uid]? s'.modules[uid]?
  ports : ∀ key : Bytes, s'.ports[key]?.map PortRecord.known = s.ports[key]?.map PortRecord.known
  attachments : s'.attachments = s.attachments
  thresholds : liveThresholds s' = liveThresholds s
  rules : s'.rules = s.rules

/-- No two statements about one attribute of a module share a sequence number. -/
structure ModuleRecord.Apart (record : ModuleRecord) : Prop where
  claims : TellsApart claimReading IdentityClaim.subject record.claims
  declarations : TellsApart declarationReading CapabilityDeclaration.subject record.declarations

section Reading

variable {s s' : State} {record record' : ModuleRecord} {claims claims' : List IdentityClaim}
  {declarations declarations' : List CapabilityDeclaration}

/-- The identity consensus does not depend on the order of the claims
(source `build_identity_consensus`). -/
lemma buildIdentityConsensus_perm (apart : TellsApart claimReading IdentityClaim.subject claims)
    (perm : claims.Perm claims') :
    buildIdentityConsensus claims' = buildIdentityConsensus claims := by
  refine (map_groupBy_congr perm fun k => ?_).symm
  unfold fieldConsensus
  rw [(apart.distinct k).tally_congr (perm.filter _)]
  rfl

/-- The capability consensus does not depend on the order of the declarations
(source `build_capability_consensus`). -/
lemma buildCapabilityConsensus_perm
    (apart : TellsApart declarationReading CapabilityDeclaration.subject declarations)
    (perm : declarations.Perm declarations') :
    buildCapabilityConsensus declarations' = buildCapabilityConsensus declarations := by
  refine (map_groupBy_congr perm fun k => ?_).symm
  unfold attributeConsensus
  rw [(apart.distinct k).tally_congr (perm.filter _)]
  rfl

/-- States with the same knowledge have the same live sources (source `source_is_live`). -/
lemma State.Alike.sourceIsLive (same : State.Alike s s') (source : SourceId)
    (epoch : SourceEpoch) : sourceIsLive s' source epoch = sourceIsLive s source epoch := by
  have known := same.sources source
  unfold TransceiverRegistry.sourceIsLive
  cases before : s.sources[source]? with
  | none =>
    rw [before, Option.map_none, Option.map_eq_none_iff] at known
    rw [known]
  | some old =>
    rw [before, Option.map_some] at known
    obtain ⟨new, found, known⟩ := Option.map_eq_some_iff.1 known
    rw [found]
    simp only [SourceRecord.known, Prod.mk.injEq] at known
    dsimp only
    rw [known.2.1]

/-- The live claims of a module, in another order (source `live_claims`). -/
lemma State.Alike.liveClaims (same : State.Alike s s') (alike : record.Alike record')
    (incarnation : IncarnationId) :
    (liveClaims s record incarnation).Perm (liveClaims s' record' incarnation) := by
  have marks : (fun claim : IdentityClaim => { claim with
      live := TransceiverRegistry.sourceIsLive s' claim.source claim.sourceEpoch &&
        !claimShadowed record'.claims claim }) = fun claim : IdentityClaim => { claim with
      live := TransceiverRegistry.sourceIsLive s claim.source claim.sourceEpoch &&
        !claimShadowed record.claims claim } := by
    funext claim
    rw [same.sourceIsLive, claimShadowed, claimShadowed, isCovered, isCovered,
      alike.claims.any_eq]
  unfold TransceiverRegistry.liveClaims
  rw [marks]
  exact (alike.claims.filter _).map _

/-- The live declarations of a module, in another order (source `live_declarations`). -/
lemma State.Alike.liveDeclarations (same : State.Alike s s') (alike : record.Alike record')
    (incarnation : IncarnationId) :
    (liveDeclarations s record incarnation).Perm (liveDeclarations s' record' incarnation) := by
  have marks : (fun declaration : CapabilityDeclaration => { declaration with
      live := TransceiverRegistry.sourceIsLive s' declaration.source declaration.sourceEpoch &&
        !declarationShadowed record'.declarations declaration }) =
      fun declaration : CapabilityDeclaration => { declaration with
      live := TransceiverRegistry.sourceIsLive s declaration.source declaration.sourceEpoch &&
        !declarationShadowed record.declarations declaration } := by
    funext declaration
    rw [same.sourceIsLive, declarationShadowed, declarationShadowed, alike.declarations.any_eq]
  unfold TransceiverRegistry.liveDeclarations
  rw [marks]
  exact (alike.declarations.filter _).map _

/-- The consensus about a module is read from the knowledge (source `build_identity_consensus`,
`build_capability_consensus`). -/
lemma State.Alike.consensus (same : State.Alike s s') (alike : record.Alike record')
    (apart : record.Apart) (incarnation : IncarnationId) :
    buildIdentityConsensus (TransceiverRegistry.liveClaims s' record' incarnation) =
        buildIdentityConsensus (TransceiverRegistry.liveClaims s record incarnation) ∧
      buildCapabilityConsensus (TransceiverRegistry.liveDeclarations s' record' incarnation) =
        buildCapabilityConsensus (TransceiverRegistry.liveDeclarations s record incarnation) := by
  constructor
  · refine buildIdentityConsensus_perm ?_ (same.liveClaims alike incarnation)
    exact List.pairwise_map.2 (apart.claims.filter _)
  · refine buildCapabilityConsensus_perm ?_ (same.liveDeclarations alike incarnation)
    exact List.pairwise_map.2 (apart.declarations.filter _)

/-- What is read of the module that a query names is read from the knowledge (source the first checks
of `Registry::identity`). -/
lemma State.Alike.queriedModule (same : s.Alike s') {uid : ModuleUid} {incarnation : IncarnationId}
    {replaced : String} {γ : Type} {read read' : ModuleRecord → Result γ}
    (reads : ∀ record record', s.modules[uid]? = some record → record.Alike record' →
      read' record' = read record) :
    (TransceiverRegistry.queriedModule s' uid incarnation replaced >>= read') =
      TransceiverRegistry.queriedModule s uid incarnation replaced >>= read := by
  have modules := same.modules uid
  unfold TransceiverRegistry.queriedModule
  cases found : s.modules[uid]? with
  | none =>
    rw [found] at modules
    generalize s'.modules[uid]? = found' at modules ⊢
    cases modules
    rfl
  | some record =>
    rw [found] at modules
    generalize s'.modules[uid]? = found' at modules ⊢
    obtain @⟨_, record', alike⟩ := modules
    have current : incarnationIsCurrent record' incarnation =
        incarnationIsCurrent record incarnation := by
      unfold incarnationIsCurrent
      rw [alike.incarnation]
    show ((refuseIf (incarnationIsCurrent record' incarnation = false) (makeError .fenced replaced)
        >>= fun _ => .ok record') >>= read') =
      ((refuseIf (incarnationIsCurrent record incarnation = false) (makeError .fenced replaced)
        >>= fun _ => .ok record) >>= read)
    rw [current]
    cases incarnationIsCurrent record incarnation with
    | false => rfl
    | true => exact reads record record' found alike

end Reading

section Answers

variable {s s' : State}

/-- The statements about every module are told apart. -/
def State.Apart (s : State) : Prop :=
  ∀ (uid : ModuleUid) record, s.modules[uid]? = some record → record.Apart

/-- Who a module is, is read from the knowledge (source `Registry::identity`). -/
lemma State.Alike.identity (same : s.Alike s') (apart : s.Apart)
    (generation : s'.generation = s.generation) (module : ModuleHandle) :
    TransceiverRegistry.identity s' module = TransceiverRegistry.identity s module := by
  refine same.queriedModule fun record record' found alike => ?_
  simp only [alike.incarnation, alike.uid, alike.key, alike.state, generation,
    (same.consensus alike (apart _ _ found) record.incarnation).1]

/-- What a module can do, is read from the knowledge (source `Registry::capabilities`). -/
lemma State.Alike.capabilities (same : s.Alike s') (apart : s.Apart)
    (generation : s'.generation = s.generation) (module : ModuleHandle) :
    TransceiverRegistry.capabilities s' module = TransceiverRegistry.capabilities s module := by
  refine same.queriedModule fun record record' found alike => ?_
  simp only [alike.incarnation, alike.uid, generation,
    (same.consensus alike (apart _ _ found) record.incarnation).2]

/-- The declarations about a port are the same (source `live_port_declarations`). -/
lemma State.Alike.livePortDeclarations (same : s.Alike s') (port : Bytes) :
    s'.ports[port]?.map (TransceiverRegistry.livePortDeclarations s') =
      s.ports[port]?.map (TransceiverRegistry.livePortDeclarations s) := by
  have marked : (fun known : PortKey × List CapabilityDeclaration =>
      known.2.map fun declaration => { declaration with
        live := TransceiverRegistry.sourceIsLive s' declaration.source declaration.sourceEpoch &&
          !declarationShadowed known.2 declaration }) = fun known => known.2.map fun declaration =>
      { declaration with
        live := TransceiverRegistry.sourceIsLive s declaration.source declaration.sourceEpoch &&
          !declarationShadowed known.2 declaration } := by
    funext known
    simp only [same.sourceIsLive]
  have known := congrArg (Option.map fun known : PortKey × List CapabilityDeclaration =>
    known.2.map fun declaration => { declaration with
      live := TransceiverRegistry.sourceIsLive s' declaration.source declaration.sourceEpoch &&
        !declarationShadowed known.2 declaration }) (same.ports port)
  rw [Option.map_map, Option.map_map] at known
  refine known.trans ?_
  rw [marked]
  rfl

/-- What a port can do, is read from the knowledge (source `Registry::port_capabilities`). -/
lemma State.Alike.portCapabilities (same : s.Alike s') (generation : s'.generation = s.generation)
    (port : PortKey) :
    TransceiverRegistry.portCapabilities s' port = TransceiverRegistry.portCapabilities s port := by
  have known := same.livePortDeclarations port.str
  unfold TransceiverRegistry.portCapabilities
  generalize s.ports[port.str]? = before at known ⊢
  generalize s'.ports[port.str]? = after at known ⊢
  cases before with
  | none =>
    cases after with
    | none => rfl
    | some after => cases known
  | some before =>
    cases after with
    | none => cases known
    | some after =>
      simp only [Option.map_some, Option.some.injEq] at known
      show Except.ok (viewOf false 0 0 port s'.generation (buildCapabilityConsensus
        (TransceiverRegistry.livePortDeclarations s' after))) = _
      rw [known, generation]
      rfl

/-- Whether a module may run in a port, is read from the knowledge (source
`Registry::query_compatibility`). -/
lemma State.Alike.queryCompatibility [StdSort] (same : s.Alike s') (apart : s.Apart)
    (generation : s'.generation = s.generation) (now : WallNs) (domain : ClockDomainId)
    (query : CompatQuery) :
    TransceiverRegistry.queryCompatibility now domain s' query =
      TransceiverRegistry.queryCompatibility now domain s query := by
  unfold TransceiverRegistry.queryCompatibility
  rw [generation]
  have decide : ∀ record record', s.modules[query.uid]? = some record → record.Alike record' →
      evaluateCompatibility query (liveRules s') (queryResolver s' record' query.port)
        s.generation now domain =
      evaluateCompatibility query (liveRules s) (queryResolver s record query.port) s.generation
        now domain := by
    intro record record' found alike
    have attributes : subjectAttributes s' record' query.port =
        subjectAttributes s record query.port := by
      funext subject
      cases subject with
      | module =>
        have entries := (same.consensus alike (apart _ _ found) record'.incarnation).2
        refine entries.trans ?_
        rw [alike.incarnation]
        rfl
      | port =>
        have known := congrArg (Option.map buildCapabilityConsensus)
          (same.livePortDeclarations query.port.str)
        rw [Option.map_map, Option.map_map] at known
        exact congrArg (Option.getD · []) known
    rw [queryResolver, queryResolver, attributes, liveRules, liveRules, same.rules]
  simp only [same.queriedModule fun record record' found alike =>
    congrArg Except.ok (decide record record' found alike)]

end Answers

end TransceiverRegistry
